import SmellScan.Host
import SmellScan.SyntaxNode
import SmellScan.Text.Lines

/-!
# Source units

One source text with its language and, if asked for, its tree or the failure to build one. The
parser is that of the host.
-/

namespace SmellScan

/-- One source to analyse. -/
structure SourceUnit where
  path : String
  text : String
  language : Language
  tree : Option SyntaxNode
  parseError : Option ParseFailure

namespace SourceUnit

/-- The lines of the text. -/
def lines (unit : SourceUnit) : List String :=
  Text.lines unit.text

/-- The lines with their numbers, from 1. -/
def numberedLines (unit : SourceUnit) : List (Nat × String) :=
  (unit.lines.zipIdx 1).map fun (line, n) => (n, line)

/-- The unit of a text in a known language. Pairs of carriage return and line feed become line
feeds. -/
def ofText (host : Host) (path : String) (language : Language) (source : String)
    (parse : Bool) : SourceUnit :=
  let text := String.ofList (Text.joinReturns source.toList)
  if parse then
    match SyntaxNode.build host.refusesTree text (host.parse language text) with
    | .ok tree => ⟨path, text, language, some tree, none⟩
    | .error failure => ⟨path, text, language, none, some failure⟩
  else ⟨path, text, language, none, none⟩

/-- The unit of a text, its language by its path. -/
def ofSource (host : Host) (path source : String) (parse : Bool) :
    Except LanguageError SourceUnit :=
  match Language.ofPath path with
  | .ok language => .ok (ofText host path language source parse)
  | .error e => .error e

end SourceUnit

end SmellScan
