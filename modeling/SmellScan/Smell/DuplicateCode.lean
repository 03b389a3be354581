import SmellScan.Similarity.Match
import SmellScan.Smell.Basic

/-!
# Duplicate code

Near-copies among the blocks of a tree, each with its evidence.
-/

namespace SmellScan

open Similarity (Match LineCluster)

/-- A block as the evidence names it. -/
def BlockRef.ofBlock (block : CodeBlock) : BlockRef :=
  ⟨block.line, block.kind.name, block.name⟩

/-- Line numbers with commas between them. -/
def showLines (lines : List Int) : String :=
  ",".intercalate (lines.map toString)

/-- A shared run in words, its lines below it. -/
def showCluster (c : LineCluster) : String :=
  "- Lines " ++ showLines c.linesA ++ " match lines " ++ showLines c.linesB ++ ":\n  " ++
    "\n  ".intercalate c.code

/-- All shared runs in words. -/
def showClusters (clusters : List LineCluster) : String :=
  let head := s!"Found {clusters.length} similar code segments:"
  if clusters.isEmpty then head else head ++ "\n" ++ "\n".intercalate (clusters.map showCluster)

/-- The evidence for a match. -/
def DuplicateDetail.ofMatch (m : Match) : DuplicateDetail :=
  { block1 := .ofBlock m.blockA
    block2 := .ofBlock m.blockB
    similarity := m.similarity
    similarLines := m.clusters
    message := showClusters m.clusters }

/-- A score in percent, a half going up. -/
def percent (s : Double) : Int :=
  ((s.mul (.ofInt 100)).add (.ofRatio 1 2)).floor?.getD 0

namespace Smell.DuplicateCode

/-- The near-copies in a tree. -/
def check (tree : SyntaxNode) (config : Config) : List Occurrence :=
  let blocks := CodeBlock.extract tree config.minDuplicateLength
  (Similarity.findMatches blocks config.minDuplicateLength config.similarityThreshold).map fun m =>
    { line := m.line
      description := s!"Duplicate code detected with {percent m.similarity}% similarity."
      details := some (.ofMatch m) }

end Smell.DuplicateCode

end SmellScan
