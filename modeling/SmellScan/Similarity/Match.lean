import SmellScan.CodeBlock
import SmellScan.Numeric.Double
import SmellScan.Similarity.EditDistance
import SmellScan.Similarity.LineCluster

/-!
# Near-copies

The score of two texts is the share of the longer text that survives the edits between them. Every
pair of blocks is compared; a pair whose lengths alone rule it out is dropped before its distance is
computed.
-/

namespace SmellScan.Similarity

/-- The score of two texts, from 0 to 1: the longer length less the edit distance, over the longer
length. -/
def score (a b : String) : Double :=
  if a = b then .one
  else
    let longer := max a.length b.length
    .ofRatio (longer - editDistance a.toList b.toList) longer

/-- Two blocks that are near-copies, with the evidence. -/
structure Match where
  blockA : CodeBlock
  blockB : CodeBlock
  similarity : Double
  clusters : List LineCluster
  deriving DecidableEq, Repr

/-- The line at which a match is reported: the smaller of the two start lines. -/
def Match.line (m : Match) : Int :=
  min m.blockA.line m.blockB.line

/-- The score at which blocks are near-copies unless a caller says otherwise: 0.8. -/
def defaultThreshold : Double := .ofRatio 4 5

/-- The shortest block compared unless a caller says otherwise. -/
def defaultMinLength : Int := 5

/-- The lengths alone keep the score below the threshold: it is at most the shorter length over the
longer. -/
def ruledOut (threshold : Double) (m n : Nat) : Bool :=
  0 < max m n && (Double.ofRatio (min m n) (max m n)).lt threshold

/-- The match of two blocks that are long enough and score at least the threshold. -/
def comparePair? (minLength : Int) (threshold : Double) (a b : CodeBlock) : Option Match :=
  let m := a.text.length
  let n := b.text.length
  if m < minLength || n < minLength then none
  else if ruledOut threshold m n then none
  else
    let s := score a.text b.text
    if s.lt threshold then none else some ⟨a, b, s, LineCluster.find a.text b.text⟩

/-- Every pair of an element and a later one, in order. -/
def pairs {α : Type} : List α → List (α × α)
  | [] => []
  | a :: as => as.map (a, ·) ++ pairs as

/-- The matches among blocks, by ascending pair of keys. -/
def findMatches (table : BlockTable) (minLength : Int) (threshold : Double) : List Match :=
  (pairs table.sortedBlocks).filterMap fun (a, b) => comparePair? minLength threshold a b

end SmellScan.Similarity
