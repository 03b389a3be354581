/-!
# Edit distance

The least number of insertions, deletions and substitutions of single elements that turn one list
into another. Only one row of the table is held, as long as the shorter list.
-/

namespace SmellScan.Similarity

variable {α : Type} [DecidableEq α]

/-- The cells of the next row behind the cell `left`. The row above goes on with `diagonal` and the
given cells. -/
def extendRow (a : α) : (diagonal left : Nat) → List α → List Nat → List Nat
  | diagonal, left, b :: bs, above :: row =>
    let cell := min (min (above + 1) (left + 1)) (diagonal + if a = b then 0 else 1)
    cell :: extendRow a above cell bs row
  | _, _, _, _ => []

/-- The next row of the table: distances from a list that is longer by `a` to the starts of `bs`. -/
def nextRow (bs : List α) (row : List Nat) (a : α) : List Nat :=
  match row with
  | first :: row => (first + 1) :: extendRow a first (first + 1) bs row
  | [] => []

/-- The last row of the table: distances from `as` to the starts of `bs`. -/
def lastRow (as bs : List α) : List Nat :=
  as.foldl (nextRow bs) (List.range (bs.length + 1))

/-- The distance by the table whose rows belong to `long` and whose columns belong to `short`. -/
def tableDistance (long short : List α) : Nat :=
  if short.isEmpty then long.length else (lastRow long short).getLastD 0

/-- The edit distance. Rows are laid along the shorter list. -/
def editDistance (as bs : List α) : Nat :=
  if as.length < bs.length then tableDistance bs as else tableDistance as bs

end SmellScan.Similarity
