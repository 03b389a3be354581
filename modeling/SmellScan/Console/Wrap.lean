import SmellScan.Text.Blank
import SmellScan.Text.CellWidth
import SmellScan.Text.Lines

/-!
# Wrapping

A text for the console is cut into lines that fit. A line is broken before a word that does not fit
behind the others; a word that is wider than a whole line is cut where the line is full, and goes on
in the next line or ends with an ellipsis. Blanks behind a line that stand out beyond its end are
dropped.
-/

namespace SmellScan.Console

open Text

/-- The cells in a line of the console. -/
def width : Nat := 300

/-- The cells of characters. -/
def cells (cs : List Char) : Nat :=
  (cs.map charWidth).foldl (· + ·) 0

/-- A character that moves or rings the console, and is not printed. -/
def isSilent (c : Char) : Bool :=
  let n := c.toNat
  n == 0x07 || n == 0x08 || (0x0B ≤ n && n ≤ 0x0D)

/-- A line with spaces in place of its tabs, given the cells before it. A tab goes on to the next
eighth cell. -/
def expandTabs (used : Nat) : List Char → List Char
  | [] => []
  | '\t' :: cs =>
    let spaces := 8 - used % 8
    List.replicate spaces ' ' ++ expandTabs (used + spaces) cs
  | c :: cs => c :: expandTabs (used + charWidth c) cs

/-- The characters of a text that are printed. -/
def printed (s : String) : List Char :=
  s.toList.filter (!isSilent ·)

/-- The lines of a text as they are printed, however wide. -/
def printedLines (s : String) : List (List Char) :=
  (splitOn '\n' (printed s)).map (expandTabs 0)

/-- What becomes of a word that is wider than a line. -/
inductive Overflow where
  /-- It goes on in the next line. -/
  | fold
  /-- It ends with an ellipsis. -/
  | ellipsis
  deriving DecidableEq, Repr

/-- The words of a line, each with the blanks behind it, and the first with those before it as well.
`word` is the one that has begun, its last character first, and `seen` says whether it holds more
than blanks. -/
def spacedWordsFrom (word : List Char) (seen : Bool) : List Char → List (List Char)
  | [] => if seen then [word.reverse] else []
  | c :: cs =>
    if isBlank c then spacedWordsFrom (c :: word) seen cs
    else if seen && word.head?.any isBlank then word.reverse :: spacedWordsFrom [c] true cs
    else spacedWordsFrom (c :: word) true cs

/-- The words of a line with the blanks around them. -/
def spacedWords (cs : List Char) : List (List Char) :=
  spacedWordsFrom [] false cs

/-- A word cut into pieces that fit a line; `piece` is the one that has begun, its last character
first, and `used` is its width. -/
def chopFrom (total : Nat) (piece : List Char) (used : Nat) : List Char → List (List Char)
  | [] => [piece.reverse]
  | c :: cs =>
    if total < used + charWidth c then piece.reverse :: chopFrom total [c] (charWidth c) cs
    else chopFrom total (c :: piece) (used + charWidth c) cs

/-- A word cut into pieces that fit a line. -/
def chop (total : Nat) (word : List Char) : List (List Char) :=
  chopFrom total [] 0 word

/-- The lines that words fill, given the line that has begun and the cells in use of it. -/
def fillFrom (overflow : Overflow) (total : Nat) (line : List Char) (used : Nat) :
    List (List Char) → List (List Char)
  | [] => [line]
  | word :: rest =>
    let size := cells (trimRight word)
    if used + size ≤ total then fillFrom overflow total (line ++ word) (used + cells word) rest
    else
      let before := if line.isEmpty then [] else [line]
      if overflow = .fold && total < size then
        let pieces := chop total word
        let last := pieces.getLastD []
        before ++ pieces.dropLast ++ fillFrom overflow total last (cells last) rest
      else before ++ fillFrom overflow total word (cells word) rest

/-- A line broken where it does not fit. A line of blanks stays whole. -/
def breakLine (overflow : Overflow) (total : Nat) (cs : List Char) : List (List Char) :=
  match spacedWords cs with
  | [] => [cs]
  | ws => fillFrom overflow total [] 0 ws

/-- A line without the blanks behind it that exceed a number of characters. -/
def dropExcess (total : Nat) (cs : List Char) : List Char :=
  let blanks := (cs.reverse.takeWhile isBlank).length
  cs.take (cs.length - min blanks (cs.length - total))

/-- The characters that fit into a number of cells, sought by halves between two places. A wide one
that fits only in part is a space. Where characters have no width, several places may be right, and
the first that is found counts. -/
def cropFrom (total : Nat) (cs : List Char) : (steps first last : Nat) → List Char
  | 0, _, _ => cs
  | steps + 1, first, last =>
    let middle := (first + last) / 2
    let before := cs.take (middle + 1)
    let size := cells before
    if size == total + 1 && before.getLast?.any (charWidth · == 2) then before.dropLast ++ [' ']
    else if size == total then before
    else if total < size then cropFrom total cs steps first middle
    else cropFrom total cs steps middle last

/-- A line cut to a number of cells. -/
def cropTo (total : Nat) (cs : List Char) : List Char :=
  if total = 0 then [] else cropFrom total cs (cs.length + 1) 0 cs.length

/-- A line that does not fit is cut. -/
def truncate (overflow : Overflow) (total : Nat) (cs : List Char) : List Char :=
  if cells cs ≤ total then cs
  else
    match overflow with
    | .fold => cropTo total cs
    | .ellipsis => cropTo (total - 1) cs ++ ['…']

/-- The lines of a text, broken to fit. -/
def wrap (total : Nat) (s : String) : List String :=
  (printedLines s).flatMap fun line =>
    (breakLine .fold total line).map fun piece =>
      String.ofList (truncate .fold total (dropExcess total piece))

/-- The lines of a text as they are, however wide. -/
def unwrapped (total : Nat) (s : String) : List String :=
  (printedLines s).map fun line => String.ofList (dropExcess total line)

end SmellScan.Console
