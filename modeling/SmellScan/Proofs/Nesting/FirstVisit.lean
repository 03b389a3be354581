import SmellScan.Proofs.Nesting.Walk
import SmellScan.Proofs.SyntaxNode.Tour

/-!
# Nested lines by the first visit

What an analyzer finds in a tree, said without its recursion. It tours the tree, the arguments of a
call before its body and the body before the other children, and the depth of a node is the number
of closures on the way to it (`depthAt`). Of the nodes that have a line and are too deep, the first
on each line is found. The walk carries the depth down by value, and this is the depth by the way to
a node (`walk_eq_tour`). An analyzer keeps nothing of what it finds, so what it finds in a tree is
the same whatever trees it went over before (`analyzeAll_firstVisits`).
-/

namespace SmellScan.Nesting

open SyntaxNode

/-- The kinds of node that raise the depth. -/
def closureKinds : List NodeKind :=
  [.functionDeclaration, .functionExpression, .arrowFunction]

/-- The slots of a node as the analyzer takes them: arguments are those of a call. -/
def slotOrder (kind : NodeKind) : List Slot :=
  if kind = .callExpression then [.arguments, .body, .children] else [.body, .children]

/-- The closures on a way down. -/
def closuresOn (path : List SyntaxNode) : ℕ :=
  path.countP (·.info.kind ∈ closureKinds)

/-- The depth of a visited node: the closures on the way from the root to it, itself included. -/
def depthAt (v : Visit) : ℕ :=
  closuresOn v.path

/-- What is found at a visited node: its line and its depth, if it has a line and is too deep. -/
def violationAt? (maxDepth : ℤ) (v : Visit) : Option NestingViolation :=
  v.node.info.line.bind fun l => if maxDepth < depthAt v then some ⟨l, depthAt v⟩ else none

/-! ## The walk is a tour -/

theorem opensClosure_eq (kind : NodeKind) :
    kind.opensClosure = decide (kind ∈ closureKinds) := by
  cases kind <;> rfl

theorem depthInside_closuresOn (above : List SyntaxNode) (n : SyntaxNode) :
    depthInside n.info.kind (closuresOn above) = closuresOn (above ++ [n]) := by
  rw [depthInside, opensClosure_eq, closuresOn, closuresOn, List.countP_append,
    List.countP_singleton]
  split_ifs <;> rfl

/-- A node of a tour as the walk shows it. -/
def shown (v : Visit) : SyntaxNode × ℕ :=
  (v.node, depthAt v)

theorem tour_slotOrder (above : List SyntaxNode) (info : NodeInfo) (body : Body SyntaxNode)
    (arguments children : List SyntaxNode) :
    let n : SyntaxNode := .mk info body arguments children
    tour slotOrder above n = ⟨above, n⟩ ::
      ((if info.kind = .callExpression then tourAll slotOrder (above ++ [n]) arguments else []) ++
        (tourBody slotOrder (above ++ [n]) body ++ tourAll slotOrder (above ++ [n]) children)) := by
  intro n
  rw [tour, slotOrder]
  split_ifs <;> simp [n]

mutual

/-- **The walk is the tour**, and the depth that it carries is that of the way. -/
theorem walk_eq_tour (above : List SyntaxNode) (n : SyntaxNode) :
    walk (closuresOn above) n = (tour slotOrder above n).map shown := by
  cases n with
  | mk info body arguments children =>
    have hinside := depthInside_closuresOn above (.mk info body arguments children)
    rw [walk, tour_slotOrder, List.map_cons, List.map_append, List.map_append,
      ← walkBody_eq_tour _ body, ← walkAll_eq_tour _ children, ← hinside]
    by_cases hcall : info.kind = .callExpression
    · rw [if_pos hcall, if_pos hcall, ← walkAll_eq_tour _ arguments, ← hinside]
      exact congrArg (· :: _) (congrArg (Prod.mk _) hinside)
    · rw [if_neg hcall, if_neg hcall]
      exact congrArg (· :: _) (congrArg (Prod.mk _) hinside)

theorem walkBody_eq_tour (above : List SyntaxNode) (b : Body SyntaxNode) :
    walkBody (closuresOn above) b = (tourBody slotOrder above b).map shown := by
  cases b with
  | none => rfl
  | one n => exact walk_eq_tour above n
  | seq ns => exact walkAll_eq_tour above ns

theorem walkAll_eq_tour (above : List SyntaxNode) (ns : List SyntaxNode) :
    walkAll (closuresOn above) ns = (tourAll slotOrder above ns).map shown := by
  cases ns with
  | nil => rfl
  | cons n ns =>
    rw [walkAll, tourAll, List.map_append, walk_eq_tour above n, walkAll_eq_tour above ns]

end

/-! ## One tree after the other -/

/-- In one tree, the first visit on each line counts. -/
theorem analyze_eq_firstVisits (root : SyntaxNode) (maxDepth : ℤ) :
    analyze root maxDepth =
      firsts (·.line) ((tour slotOrder [] root).filterMap (violationAt? maxDepth)) := by
  have hwalk : walk 0 root = (tour slotOrder [] root).map shown := walk_eq_tour [] root
  rw [analyze_eq_firsts, hwalk, List.filterMap_map]
  rfl

/-- **An analyzer finds the first visit of each line that is too deep**, in every tree that it goes
over, whatever it went over before. -/
theorem analyzeAll_firstVisits (analyzer : Analyzer) (trees : List SyntaxNode) :
    analyzer.analyzeAll trees = trees.map fun root =>
      firsts (·.line)
        ((tour slotOrder [] root).filterMap (violationAt? analyzer.maxDepth)) := by
  induction trees with
  | nil => rfl
  | cons root trees ih =>
    rw [List.map_cons, ← ih, ← analyze_eq_firstVisits]
    rfl

end SmellScan.Nesting
