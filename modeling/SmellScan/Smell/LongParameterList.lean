import SmellScan.Smell.Basic
import SmellScan.Text.Word

/-!
# Long parameter lists

The first function header or arrow header of a line is looked at, and the commas of its list are
counted.
-/

namespace SmellScan.Smell.LongParameterList

open Text

/-- A list in parentheses at the start of the text, and what follows it. -/
def parenthesized? (cs : List Char) : Option (List Char × List Char) :=
  match cs with
  | '(' :: rest => upTo? ')' rest
  | _ => none

/-- The parameters of a header with the word `function`, a name or none, and a list. -/
def functionHeader? (cs : List Char) : Option (List Char) :=
  match stripStart? "function".toList cs with
  | some (c :: rest) =>
    if isBlank c then
      (parenthesized? (trimLeft ((trimLeft rest).dropWhile isWord))).map (·.1)
    else none
  | _ => none

/-- The parameters of a list with an arrow behind it. -/
def arrowHeader? (cs : List Char) : Option (List Char) :=
  match parenthesized? cs with
  | some (params, rest) => (stripStart? ['=', '>'] (trimLeft rest)).map fun _ => params
  | none => none

/-- The parameters of a header at the start of the text. -/
def header? (cs : List Char) : Option (List Char) :=
  match functionHeader? cs with
  | some params => some params
  | none => arrowHeader? cs

/-- The number of pieces between commas; even an empty list has one. -/
def countParameters (params : List Char) : Nat :=
  params.count ',' + 1

/-- The parameter count of the first header of a line. -/
def lineCount? (line : List Char) : Option Nat :=
  (findFirst? header? line).map countParameters

/-- The lines whose first header has too many parameters. -/
def check (unit : SourceUnit) (config : Config) : List Occurrence :=
  unit.numberedLines.filterMap fun (n, line) =>
    match lineCount? line.toList with
    | some count =>
      if config.maxParameters < count then
        some { line := n, description :=
          s!"Function has {count} parameters, which exceeds the recommended " ++
          s!"limit of {config.maxParameters}. Consider refactoring the function to " ++
          "use a single configuration object or simplifying the function's responsibilities." }
      else none
    | none => none

end SmellScan.Smell.LongParameterList
