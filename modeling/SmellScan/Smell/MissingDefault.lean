import SmellScan.Smell.Basic
import SmellScan.Text.Word

/-!
# Switches without a default

A switch statement whose text up to the first closing brace has no default label.
-/

namespace SmellScan.Smell.MissingDefault

open Text

/-- The body of a switch at the start of the text, up to the first closing brace, and what follows
it. Its subject is not empty and ends at the first closing parenthesis. -/
def statement? (cs : List Char) : Option (List Char × List Char) :=
  match stripStart? "switch".toList cs with
  | none => none
  | some rest =>
    match trimLeft rest with
    | '(' :: rest =>
      match upTo? ')' rest with
      | some (_ :: _, rest) =>
        match trimLeft rest with
        | '\x7b' :: rest => upTo? '\x7d' rest
        | _ => none
      | _ => none
    | _ => none

/-- The text starts with a default label. -/
def startsDefault (cs : List Char) : Bool :=
  match stripStart? "default".toList cs with
  | some rest => (trimLeft rest).head? == some ':'
  | none => false

/-- A default label stands in the text behind a character that is no word character. -/
def hasDefaultFrom (afterWord : Bool) : List Char → Bool
  | [] => false
  | c :: cs => (!afterWord && startsDefault (c :: cs)) || hasDefaultFrom (isWord c) cs

/-- A body with a default label. -/
def hasDefault (body : List Char) : Bool :=
  hasDefaultFrom false body

/-- The switches of a unit without a default label. -/
def check (unit : SourceUnit) (_ : Config) : List Occurrence :=
  let cs := unit.text.toList
  (findAll statement? cs).filterMap fun (offset, body) =>
    if hasDefault body then none
    else some { line := lineOf cs offset, description :=
      "Missing default case in the switch statement. Consider adding a default " ++
      "case to handle unexpected input." }

end SmellScan.Smell.MissingDefault
