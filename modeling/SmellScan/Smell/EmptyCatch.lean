import SmellScan.Smell.Basic
import SmellScan.Text.Word

/-!
# Empty catch blocks

A catch clause, with a binding or without, whose text up to the first closing brace is blank or
begins with a line comment.
-/

namespace SmellScan.Smell.EmptyCatch

open Text

/-- The text behind a word of at least one character. -/
def skipWord? (cs : List Char) : Option (List Char) :=
  match cs with
  | c :: rest => if isWord c then some (rest.dropWhile isWord) else none
  | [] => none

/-- The text behind a binding whose opening parenthesis is read: a name, a type behind a colon or
none, and the closing parenthesis. -/
def skipBinding? (cs : List Char) : Option (List Char) :=
  match skipWord? (trimLeft cs) with
  | none => none
  | some rest =>
    match trimLeft rest with
    | ')' :: rest => some rest
    | ':' :: rest =>
      match skipWord? (trimLeft rest) with
      | none => none
      | some rest =>
        match trimLeft rest with
        | ')' :: rest => some rest
        | _ => none
    | _ => none

/-- The text behind the binding of a clause, which it need not have. -/
def skipBindingIfAny? (cs : List Char) : Option (List Char) :=
  match cs with
  | '(' :: rest => skipBinding? rest
  | other => some other

/-- The body of a catch clause at the start of the text, up to the first closing brace, and what
follows it. -/
def clause? (cs : List Char) : Option (List Char × List Char) :=
  match stripStart? "catch".toList cs with
  | none => none
  | some rest =>
    match skipBindingIfAny? (trimLeft rest) with
    | none => none
    | some rest =>
      match trimLeft rest with
      | '\x7b' :: rest => upTo? '\x7d' rest
      | _ => none

/-- A body that is blank or begins with a line comment. -/
def isEmptyBody (body : List Char) : Bool :=
  match trim body with
  | [] => true
  | '/' :: '/' :: _ => true
  | _ => false

/-- The empty catch clauses of a unit. -/
def check (unit : SourceUnit) (_ : Config) : List Occurrence :=
  let cs := unit.text.toList
  (findAll clause? cs).filterMap fun (offset, body) =>
    if isEmptyBody body then
      some { line := lineOf cs offset, description :=
        "Empty catch block found. Consider handling or logging the error." }
    else none

end SmellScan.Smell.EmptyCatch
