import SmellScan.Numeric.Double
import SmellScan.Similarity.LineCluster

/-!
# Findings

One detection of a smell, with the evidence for a near-copy, and the diagnostic of a file that could
not be read or parsed.
-/

namespace SmellScan

open Similarity (LineCluster)

/-- A block named in the evidence. -/
structure BlockRef where
  startLine : Int
  type : String
  name : String
  deriving DecidableEq, Repr

/-- The evidence for a near-copy. -/
structure DuplicateDetail where
  block1 : BlockRef
  block2 : BlockRef
  similarity : Double
  similarLines : List LineCluster
  message : String
  deriving DecidableEq, Repr

/-- One detection of a smell. -/
structure Finding where
  file : String
  line : Int
  smell : String
  description : String
  fix : String
  details : Option DuplicateDetail
  deriving DecidableEq, Repr

/-- A file that could not be read, or whose tree could not be built. -/
structure Diagnostic where
  file : String
  message : String
  deriving DecidableEq, Repr

namespace Finding

/-- By file, then by line. -/
def le (a b : Finding) : Bool :=
  if a.file < b.file then true else if b.file < a.file then false else a.line ≤ b.line

/-- Same file, line and smell: the two count as one detection. -/
def sameKey (a b : Finding) : Bool :=
  a.file == b.file && a.line == b.line && a.smell == b.smell

end Finding

end SmellScan
