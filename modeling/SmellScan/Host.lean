import SmellScan.Language
import SmellScan.ParseTree

/-!
# The host

What the program does not bring along: the parser of the source languages, the names of characters,
how far the host lets a recursion go, and the habits of its writer of tables.
-/

namespace SmellScan

/-- What the program is given from outside. -/
structure Host where
  /-- The tree of a text in a language. -/
  parse : Language → String → ParseTree
  /-- A tree has more levels than the host lets the program walk. -/
  refusesTree : ParseTree → Bool
  /-- The search of a target is not carried on in a directory so many levels below it. -/
  refusesLevel : Nat → Bool
  /-- The groups of a pattern are nested too deeply to be read. -/
  refusesPattern : String → Bool
  /-- The character with a name. -/
  namedChar? : String → Option Char
  /-- A carriage return makes the writer of tables quote a cell. -/
  quotesReturns : Bool

/-- A host with a parser, limits of a common size and no names of characters. -/
def Host.usual (parse : Language → String → ParseTree) : Host where
  parse
  refusesTree := ParseTree.isDeeperThan 300
  refusesLevel level := 900 < level
  refusesPattern _ := false
  namedChar? _ := none
  quotesReturns := true

end SmellScan
