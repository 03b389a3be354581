import SmellScan.Text.Lines

/-!
# Shared lines

Runs of at least two consecutive lines that two texts share once blanks at either end are ignored.
They are the evidence shown for a near-copy.
-/

namespace SmellScan.Similarity

/-- A run of consecutive lines shared by two texts, with its line numbers, from 1, in each. -/
structure LineCluster where
  linesA : List Int
  linesB : List Int
  code : List String
  deriving DecidableEq, Repr

namespace LineCluster

/-- The fewest lines of a run that is reported. -/
def minLines : Nat := 2

/-- The numbers of `count` lines behind the first `skipped`. -/
def numbers (skipped count : Nat) : List Int :=
  (List.range count).map fun k => ((skipped + k + 1 : Nat) : Int)

/-- How many elements two lists share from their start on. -/
def sharedLength : List String → List String → Nat
  | a :: as, b :: bs => if a = b then sharedLength as bs + 1 else 0
  | _, _ => 0

/-- A pair of equal lines has an equal pair right before it. -/
def continues (before before' : Option String) : Bool :=
  before.isSome && before == before'

/-- The run that starts with the first lines of `as` and `bs`, if it is long enough. -/
def startingAt? (i j : Nat) (as bs : List String) : Option LineCluster :=
  let count := sharedLength as bs
  if minLines ≤ count then some ⟨numbers i count, numbers j count, as.take count⟩ else none

/-- The runs whose first line in the one text is that of `as`, at position `i`, and whose first line
in the other is in `bs`, from position `j` on. -/
def alongB (i : Nat) (beforeA : Option String) (as : List String) :
    Nat → Option String → List String → List LineCluster
  | _, _, [] => []
  | j, beforeB, b :: bs =>
    let rest := alongB i beforeA as (j + 1) (some b) bs
    if as.head? == some b && !continues beforeA beforeB then
      (startingAt? i j as (b :: bs)).toList ++ rest
    else rest

/-- The runs whose first line in the one text is in `as`, from position `i` on. -/
def alongA (bs : List String) : Nat → Option String → List String → List LineCluster
  | _, _, [] => []
  | i, beforeA, a :: as =>
    alongB i beforeA (a :: as) 0 none bs ++ alongA bs (i + 1) (some a) as

/-- The lines of a text without blanks at either end. -/
def trimmedLines (s : String) : List String :=
  (Text.splitOn '\n' s.toList).map fun l => String.ofList (Text.trim l)

/-- All maximal shared runs by first line in `a`, then in `b`. Equal texts share one run, the whole
text. -/
def find (a b : String) : List LineCluster :=
  let as := trimmedLines a
  if a = b then [⟨numbers 0 as.length, numbers 0 as.length, as⟩]
  else alongA (trimmedLines b) 0 none as

end LineCluster

end SmellScan.Similarity
