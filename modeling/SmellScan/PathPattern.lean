import SmellScan.Host
import SmellScan.Regex.Matcher

/-!
# Patterns for paths

The patterns by which files are left out. A pattern is a regular expression that is found anywhere
in a path, without regard to case. The patterns of a list are read as they are come to, so that one
behind the first that is found is not read at all.
-/

namespace SmellScan

/-- A pattern that cannot be read. -/
structure PatternFault where
  pattern : String
  fault : Regex.Fault
  deriving DecidableEq, Repr

/-- The text of a fault. -/
def PatternFault.message (e : PatternFault) : String :=
  e.fault.message e.pattern

namespace Host

/-- Reads a pattern. -/
def readPattern (host : Host) (pattern : String) : Except PatternFault Regex.Pattern :=
  if host.refusesPattern pattern then .error ⟨pattern, .tooDeep⟩
  else (Regex.parse host.namedChar? [.ignoreCase] pattern).mapError (⟨pattern, ·⟩)

/-- One of several patterns is found in a path. -/
def findsPattern (host : Host) (path : String) : List String → Except PatternFault Bool
  | [] => .ok false
  | pattern :: patterns => do
    if (← host.readPattern pattern).foundIn path then return true
    host.findsPattern path patterns

end Host

end SmellScan
