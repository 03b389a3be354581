import SmellScan.SyntaxNode

/-!
# Nesting of closures

Only functions raise the depth, so blocks nested in one function never count. A walk reports each
line at most once, with the depth of the first node on it that is too deep.
-/

namespace SmellScan

/-- A line that is nested deeper than allowed. -/
structure NestingViolation where
  line : Int
  depth : Nat
  deriving DecidableEq, Repr

namespace Nesting

/-- The depth inside a node of a kind. -/
def depthInside (kind : NodeKind) (depth : Nat) : Nat :=
  if kind.opensClosure then depth + 1 else depth

/-- The violations found so far and, if it is too deep and its line is new, a node at `depth`. -/
def report (maxDepth : Int) (line : Option Int) (depth : Nat) (found : List NestingViolation) :
    List NestingViolation :=
  match line with
  | some l =>
    if maxDepth < depth && !found.any (·.line == l) then found ++ [⟨l, depth⟩] else found
  | none => found

mutual

/-- The violations after a walk over a node at `depth`: the node, then its arguments if it is a
call, then its body, then its other children. -/
def visit (maxDepth : Int) (depth : Nat) :
    SyntaxNode → List NestingViolation → List NestingViolation
  | .mk info body arguments children, found =>
    let inside := depthInside info.kind depth
    let found := report maxDepth info.line inside found
    let found :=
      if info.kind = .callExpression then visitAll maxDepth inside arguments found else found
    visitAll maxDepth inside children (visitBody maxDepth inside body found)

/-- The violations after a walk over a body. -/
def visitBody (maxDepth : Int) (depth : Nat) :
    Body SyntaxNode → List NestingViolation → List NestingViolation
  | .none, found => found
  | .one n, found => visit maxDepth depth n found
  | .seq ns, found => visitAll maxDepth depth ns found

/-- The violations after a walk over several nodes in order. -/
def visitAll (maxDepth : Int) (depth : Nat) :
    List SyntaxNode → List NestingViolation → List NestingViolation
  | [], found => found
  | n :: ns, found => visitAll maxDepth depth ns (visit maxDepth depth n found)

end

/-- The greatest depth allowed unless a caller says otherwise. -/
def defaultMaxDepth : Int := 3

/-- The lines of a tree that are nested deeper than `maxDepth`. -/
def analyze (root : SyntaxNode) (maxDepth : Int) : List NestingViolation :=
  visit maxDepth 0 root []

/-- An analyzer, which goes over one tree after the other. It keeps its limit and nothing of what
it has found. -/
structure Analyzer where
  /-- The greatest depth allowed. -/
  maxDepth : Int := defaultMaxDepth

/-- The nested lines of the next tree, and the analyzer as that tree leaves it. -/
def Analyzer.analyze (a : Analyzer) (root : SyntaxNode) : List NestingViolation × Analyzer :=
  (Nesting.analyze root a.maxDepth, a)

/-- The nested lines of several trees that an analyzer goes over one after the other. -/
def Analyzer.analyzeAll (a : Analyzer) : List SyntaxNode → List (List NestingViolation)
  | [] => []
  | root :: roots =>
    let (found, a) := a.analyze root
    found :: a.analyzeAll roots

end Nesting

end SmellScan
