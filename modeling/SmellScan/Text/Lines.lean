import SmellScan.Text.Blank

/-!
# Lines

Cutting a text at a separator and joining pieces again. `lines` cuts at line feeds only, which is
how source lines are numbered; `anyLines` cuts at every line boundary that Unicode knows and
drops an empty last piece, which is how a message is indented for display.
-/

namespace SmellScan.Text

/-- The pieces between the occurrences of `sep`; there is always at least one. -/
def splitOn (sep : Char) : List Char → List (List Char)
  | [] => [[]]
  | c :: cs =>
    if c = sep then [] :: splitOn sep cs
    else
      match splitOn sep cs with
      | [] => [[c]]
      | piece :: pieces => (c :: piece) :: pieces

/-- The pieces with `sep` between neighbours. -/
def joinWith (sep : List Char) : List (List Char) → List Char
  | [] => []
  | [piece] => piece
  | piece :: pieces => piece ++ sep ++ joinWith sep pieces

/-- The pieces of a string between the occurrences of `sep`. -/
def split (sep : Char) (s : String) : List String :=
  (splitOn sep s.toList).map String.ofList

/-- The lines of a text: what stands between its line feeds. -/
def lines (s : String) : List String :=
  split '\n' s

/-- The number, from 1, of the line that holds the character at `offset`. -/
def lineOf (cs : List Char) (offset : Nat) : Nat :=
  (cs.take offset).count '\n' + 1

/-- A character at which a displayed text ends a line. -/
def isLineBoundary (c : Char) : Bool :=
  let n := c.toNat
  (0x0A ≤ n && n ≤ 0x0D) || (0x1C ≤ n && n ≤ 0x1E) || n == 0x85 || n == 0x2028 || n == 0x2029

/-- Every displayed line; a carriage return and the line feed after it are one boundary, and a
boundary at the very end starts no further line. -/
def splitBoundaries : List Char → List (List Char)
  | [] => []
  | '\r' :: '\n' :: cs => [] :: splitBoundaries cs
  | c :: cs =>
    if isLineBoundary c then [] :: splitBoundaries cs
    else
      match splitBoundaries cs with
      | [] => [[c]]
      | piece :: pieces => (c :: piece) :: pieces

/-- The displayed lines of a message. -/
def anyLines (s : String) : List String :=
  (splitBoundaries s.toList).map String.ofList

/-- Every displayed line of `s` behind `margin`, joined by line feeds. -/
def indent (margin s : String) : String :=
  "\n".intercalate ((anyLines s).map (margin ++ ·))

/-- The text with every carriage return and line feed pair made a line feed. -/
def joinReturns : List Char → List Char
  | [] => []
  | '\r' :: '\n' :: cs => '\n' :: joinReturns cs
  | c :: cs => c :: joinReturns cs

/-- The text with every line end, be it a return, a feed or both, made a line feed. -/
def universalNewlines : List Char → List Char
  | [] => []
  | '\r' :: '\n' :: cs => '\n' :: universalNewlines cs
  | c :: cs => (if c = '\r' then '\n' else c) :: universalNewlines cs

end SmellScan.Text
