/-!
# Parse trees

The tree that a parser of the source language gives, with byte positions, field names and error
flags. A tree whose root has the error flag is not analysed; `ParseTree.firstErrorLine` finds the
line to blame.
-/

namespace SmellScan

/-- What the parser says of one node. -/
structure ParseNode where
  /-- The grammar's name for the node. -/
  type : String
  /-- Whether the node has a rule of its own in the grammar. -/
  named : Bool
  /-- The field under which its parent holds it. -/
  field : Option String
  /-- The first byte. -/
  start : Int
  /-- The byte behind the last. -/
  stop : Int
  /-- The line of the first byte, from 0. -/
  row : Int
  /-- There is an error at or below the node. -/
  hasError : Bool
  /-- The parser put the node in where the source has none. -/
  isMissing : Bool
  deriving DecidableEq, Repr

namespace ParseNode

/-- The line of the node, from 1. -/
def line (info : ParseNode) : Int :=
  info.row + 1

/-- The node itself is an error. -/
def isFault (info : ParseNode) : Bool :=
  info.type == "ERROR" || info.isMissing

/-- An error may be found at or below the node. -/
def isSuspect (info : ParseNode) : Bool :=
  info.hasError || info.isMissing

end ParseNode

/-- A node with its children in source order. -/
inductive ParseTree where
  | node (info : ParseNode) (children : List ParseTree)
  deriving Repr

namespace ParseTree

/-- What the parser says of the root. -/
def info : ParseTree → ParseNode
  | .node info _ => info

/-- The children of the root. -/
def children : ParseTree → List ParseTree
  | .node _ children => children

mutual

/-- The number of nodes. -/
def size : ParseTree → Nat
  | .node _ children => 1 + forestSize children

/-- The number of nodes of several trees. -/
def forestSize : List ParseTree → Nat
  | [] => 0
  | t :: ts => size t + forestSize ts

end

mutual

/-- The number of levels. -/
def height : ParseTree → Nat
  | .node _ children => 1 + forestHeight children

/-- The number of levels of the highest of several trees. -/
def forestHeight : List ParseTree → Nat
  | [] => 0
  | t :: ts => max (height t) (forestHeight ts)

end

/-- The tree has more levels than a limit. -/
def isDeeperThan (levels : Nat) (t : ParseTree) : Bool :=
  levels < t.height

theorem forestSize_append (ts us : List ParseTree) :
    forestSize (ts ++ us) = forestSize ts + forestSize us := by
  induction ts with
  | nil => simp [forestSize]
  | cons t ts ih => simp [forestSize, ih, Nat.add_assoc]

theorem forestSize_filter_le (p : ParseTree → Bool) (ts : List ParseTree) :
    forestSize (ts.filter p) ≤ forestSize ts := by
  induction ts with
  | nil => simp
  | cons t ts ih =>
    by_cases h : p t <;> simp [h, forestSize] <;> omega

/-- The trees in which an error may be found. -/
def suspects (ts : List ParseTree) : List ParseTree :=
  ts.filter (·.info.isSuspect)

/-- The line of the first error at or below the trees on the stack, topmost tree first. Only
children that may have an error are looked at. -/
def firstFault : List ParseTree → Option Int
  | [] => none
  | .node info children :: stack =>
    if info.isFault then some info.line
    else firstFault (suspects children ++ stack)
termination_by stack => forestSize stack
decreasing_by
  have : forestSize (suspects children) ≤ forestSize children := forestSize_filter_le _ _
  simp only [forestSize_append, forestSize, size]
  omega

/-- The line to blame for a syntax error, that of the root if no node is at fault. -/
def firstErrorLine (t : ParseTree) : Int :=
  (firstFault [t]).getD t.info.line

end ParseTree

end SmellScan
