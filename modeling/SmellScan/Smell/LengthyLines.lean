import SmellScan.Smell.Basic

/-!
# Lengthy lines

Lines above the two length limits. Lines that cannot well be broken are exempt: those with a class
attribute or a route tag, and comment lines.
-/

namespace SmellScan.Smell.LengthyLines

open Text

/-- The text starts with a value of an attribute: a template, with or without a brace before it, an
expression in braces, or a string. -/
def attributeValue (cs : List Char) : Bool :=
  match cs with
  | '\x7b' :: rest =>
    (match rest with
      | '\x60' :: inner => (upTo? '\x60' inner).isSome
      | _ => false) || (upTo? '\x7d' rest).isSome
  | '\x60' :: rest => (upTo? '\x60' rest).isSome
  | '"' :: rest => (upTo? '"' rest).isSome
  | _ => false

/-- The text starts with a class attribute and its value. -/
def startsClassAttribute (cs : List Char) : Bool :=
  match stripStart? "class".toList cs with
  | none => false
  | some rest =>
    match (stripStart? "Name".toList rest).getD rest with
    | '=' :: value => attributeValue value
    | _ => false

/-- The text starts with a route tag, up to its closing bracket. -/
def startsRouteTag (cs : List Char) : Bool :=
  match stripStart? "<Route".toList cs with
  | some (c :: rest) => isBlank c && rest.contains '>'
  | _ => false

/-- The text ends in `word`, blanks aside. -/
def endsIn (word cs : List Char) : Bool :=
  word.isSuffixOf (trimRight cs)

/-- A line that begins with a comment to its end, or that begins with the opening of a block comment
and ends with the closing of one, in braces or not. -/
def isCommentLine (line : List Char) : Bool :=
  match trimLeft line with
  | '/' :: '/' :: _ => true
  | '/' :: '*' :: rest => endsIn ['*', '/'] rest
  | '\x7b' :: '/' :: '*' :: rest => endsIn ['*', '/', '\x7d'] rest
  | _ => false

/-- A line that may have any length. -/
def isExempt (line : List Char) : Bool :=
  anywhere startsClassAttribute line || anywhere startsRouteTag line || isCommentLine line

/-- What is wrong with a line of a length, if anything. -/
def describe? (config : Config) (length : Nat) : Option String :=
  if config.maxLineLength < length then
    some (s!"Line exceeds {config.maxLineLength} characters ({length} characters). " ++
      "Consider breaking it into multiple lines for better readability.")
  else if config.lineLengthWarning < length then
    some (s!"Line exceeds {config.lineLengthWarning} characters ({length} characters). " ++
      "This is a warning; consider shortening it.")
  else none

/-- The lengthy lines of a unit. -/
def check (unit : SourceUnit) (config : Config) : List Occurrence :=
  unit.numberedLines.filterMap fun (n, line) =>
    if isExempt line.toList then none
    else (describe? config line.length).map fun description => { line := n, description }

end SmellScan.Smell.LengthyLines
