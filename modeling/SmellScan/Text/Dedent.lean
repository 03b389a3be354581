import SmellScan.Text.Lines

/-!
# Indentation

`dedent` removes the margin that all lines of a text share. A margin is made of spaces and tabs,
which are told apart; lines of spaces and tabs alone become empty and do not count.
-/

namespace SmellScan.Text

/-- A character of a margin. -/
def isIndent (c : Char) : Bool :=
  c == ' ' || c == '\t'

/-- The longest text with which both begin. -/
def commonStart : List Char → List Char → List Char
  | a :: as, b :: bs => if a = b then a :: commonStart as bs else []
  | _, _ => []

/-- The margin shared by all lines, none if no line counts. -/
def sharedMargin : List (List Char) → Option (List Char)
  | [] => none
  | line :: rest =>
    if line.all isIndent then sharedMargin rest
    else
      let own := line.takeWhile isIndent
      match sharedMargin rest with
      | none => some own
      | some margin => some (commonStart own margin)

/-- A line without the margin; a line of indentation alone is empty. -/
def dropMargin (margin line : List Char) : List Char :=
  if line.all isIndent then [] else line.drop margin.length

/-- The lines without their shared margin. -/
def dedentLines (ls : List (List Char)) : List (List Char) :=
  ls.map (dropMargin ((sharedMargin ls).getD []))

/-- The text without the margin shared by its lines. -/
def dedent (cs : List Char) : List Char :=
  joinWith ['\n'] (dedentLines (splitOn '\n' cs))

/-- The comparable text of a construct cut out of its source. The cut starts at the construct
itself, so only the lines after the first carry the margin of the enclosing scope. -/
def blockChars (raw : List Char) : List Char :=
  match raw.span (· != '\n') with
  | (first, []) => trimRight first
  | (first, _ :: rest) => trimRight first ++ '\n' :: trimRight (dedent rest)

/-- `blockChars` on strings. -/
def blockText (raw : String) : String :=
  String.ofList (blockChars raw.toList)

end SmellScan.Text
