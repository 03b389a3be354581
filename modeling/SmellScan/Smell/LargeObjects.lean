import SmellScan.Smell.Basic
import SmellScan.Text.Word

/-!
# Large objects

A constant bound to an object literal. Its properties are the pieces between commas, up to the first
closing brace, that are not blank, so a trailing comma adds none.
-/

namespace SmellScan.Smell.LargeObjects

open Text

/-- The inside of an object literal bound to a constant at the start of the text, and what follows
it. -/
def literal? (cs : List Char) : Option (List Char × List Char) :=
  match stripStart? "const".toList cs with
  | some (c :: rest) =>
    if isBlank c then
      match trimLeft rest with
      | w :: rest =>
        if isWord w then
          match trimLeft (rest.dropWhile isWord) with
          | '=' :: rest =>
            match trimLeft rest with
            | '\x7b' :: rest =>
              match upTo? '\x7d' rest with
              | some (d :: inside, rest) => some (d :: inside, rest)
              | _ => none
            | _ => none
          | _ => none
        else none
      | [] => none
    else none
  | _ => none

/-- The number of pieces between commas that are not blank. -/
def countProperties (inside : List Char) : Nat :=
  (splitOn ',' inside).countP fun part => !allBlank part

/-- The large object literals of a unit. -/
def check (unit : SourceUnit) (config : Config) : List Occurrence :=
  let cs := unit.text.toList
  (findAll literal? cs).filterMap fun (offset, inside) =>
    let properties := countProperties inside
    if config.largeObjectProperties ≤ properties then
      some { line := lineOf cs offset, description :=
        s!"Object has too many properties ({properties} properties). Consider " ++
        "breaking it into smaller objects to reduce complexity and potential security risks." }
    else none

end SmellScan.Smell.LargeObjects
