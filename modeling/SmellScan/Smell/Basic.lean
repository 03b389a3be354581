import SmellScan.Config
import SmellScan.Finding
import SmellScan.SourceUnit
import SmellScan.Text.Search

/-!
# Occurrences of smells

What a check reports before the name of the smell and the file are added to it.
-/

namespace SmellScan

/-- One place at which a check finds its smell. -/
structure Occurrence where
  line : Int
  description : String
  details : Option DuplicateDetail := none
  deriving DecidableEq, Repr

namespace Occurrence

/-- An occurrence on each line that passes a test. -/
def onLines (unit : SourceUnit) (test : List Char → Bool) (description : String) :
    List Occurrence :=
  unit.numberedLines.filterMap fun (n, line) =>
    if test line.toList then some { line := n, description } else none

end Occurrence

end SmellScan
