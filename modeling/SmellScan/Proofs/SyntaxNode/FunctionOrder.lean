import Mathlib.Logic.Function.Iterate
import SmellScan.Proofs.CodeBlock.Outermost
import SmellScan.Proofs.SyntaxNode.Places

/-!
# The functions of a tree in pre-order

The functions of a tree are searched for with a stack, the blocks by recursion. `FunctionSearch` is
the search step by step: the last node of the stack is taken off, and the nodes right below it are
put on in reverse. Read from its end, the stack stands for the part of pre-order that is still to
come, and a step takes one node off that part (`remaining_step`). So the search goes through
pre-order node by node (`remaining_iterate`, `found_iterate`), and its stack is empty after as many
steps as the tree has nodes and not before. The functions come in pre-order, the one at each place
once (`functions_preorder`).
-/

namespace SmellScan

/-- The kinds of node that are functions. -/
def functionKinds : List NodeKind :=
  [.functionDeclaration, .functionExpression, .arrowFunction, .classMethod]

/-- A search for functions on its way. -/
structure FunctionSearch where
  /-- The nodes to be looked at, the next one last. -/
  stack : List SyntaxNode
  /-- The functions found so far. -/
  found : List SyntaxNode

namespace FunctionSearch

/-- The search of a tree at its start. -/
def start (root : SyntaxNode) : FunctionSearch :=
  ⟨[root], []⟩

/-- The next node is looked at and gives way to the nodes right below it, the first of them
last. -/
def step (s : FunctionSearch) : FunctionSearch :=
  match s.stack.getLast? with
  | none => s
  | some n =>
    { stack := s.stack.dropLast ++ n.directChildren.reverse
      found := if n.info.kind ∈ functionKinds then s.found ++ [n] else s.found }

end FunctionSearch

namespace SyntaxNode

theorem isFunction_eq (kind : NodeKind) : kind.isFunction = decide (kind ∈ functionKinds) := by
  cases kind <;> rfl

/-! ## Pre-order -/

theorem preorderAll_eq (ns : List SyntaxNode) : preorderAll ns = ns.flatMap preorder := by
  induction ns with
  | nil => rfl
  | cons n ns ih => rw [preorderAll, ih, List.flatMap_cons]

theorem preorderBody_eq (b : Body SyntaxNode) : preorderBody b = b.toList.flatMap preorder := by
  cases b with
  | none => rfl
  | one n => exact (List.append_nil _).symm
  | seq ns => exact preorderAll_eq ns

/-- A node comes before the nodes right below it, each of these with all below it. -/
theorem preorder_eq (n : SyntaxNode) : n.preorder = n :: n.directChildren.flatMap preorder := by
  obtain ⟨info, body, arguments, children⟩ := n
  rw [preorder, directChildren, preorderAll_eq, preorderAll_eq, preorderBody_eq,
    List.flatMap_append, List.flatMap_append, List.append_assoc]
  rfl

/-- The first of several nodes gives way to the nodes right below it. -/
theorem flatMap_preorder_cons (n : SyntaxNode) (ns : List SyntaxNode) :
    (n :: ns).flatMap preorder = n :: (n.directChildren ++ ns).flatMap preorder := by
  rw [List.flatMap_cons, preorder_eq, List.flatMap_append, List.cons_append]

theorem length_flatMap_preorder (ns : List SyntaxNode) :
    (ns.flatMap preorder).length = forestSize ns := by
  fun_induction functionsFrom ns with
  | case1 => rfl
  | case2 n rest _ _ ih | case3 n rest _ _ ih =>
    have hsize := forestSize_directChildren n
    rw [flatMap_preorder_cons, List.length_cons, ih, forestSize_append, forestSize]
    omega

theorem length_preorder (n : SyntaxNode) : n.preorder.length = n.size := by
  simpa [forestSize] using length_flatMap_preorder [n]

/-- **The worklist finds the functions in pre-order.** -/
theorem functionsFrom_eq (ns : List SyntaxNode) :
    functionsFrom ns = (ns.flatMap preorder).filter (·.info.kind ∈ functionKinds) := by
  fun_induction functionsFrom ns with
  | case1 => rfl
  | case2 n rest found hn ih =>
    rw [flatMap_preorder_cons, List.filter_cons_of_pos (by simpa [isFunction_eq] using hn), ← ih]
  | case3 n rest found hn ih =>
    rw [flatMap_preorder_cons, List.filter_cons_of_neg (by simpa [isFunction_eq] using hn), ← ih]

theorem functions_eq (n : SyntaxNode) :
    n.functions = n.preorder.filter (·.info.kind ∈ functionKinds) := by
  rw [functions, functionsFrom_eq, List.flatMap_singleton]

theorem leavesOutNothing_slotOrder (n : SyntaxNode) :
    LeavesOutNothing CodeBlock.slotOrder n := by
  intro m _ s hs
  cases s <;> simp [CodeBlock.slotOrder] at hs

/-- Pre-order lists each node of a tree once. -/
theorem listsOnce_preorder (n : SyntaxNode) : ListsOnce n (fun _ => True) n.preorder := by
  rw [← CodeBlock.map_node_tour []]
  refine listsOnce_tour (fun kind => ?_) (leavesOutNothing_slotOrder n)
  simp [CodeBlock.slotOrder]

end SyntaxNode

/-! ## The search step by step -/

namespace FunctionSearch

open SyntaxNode

/-- What is to come of a search: pre-order of the nodes on the stack, the next one first. -/
def remaining (s : FunctionSearch) : List SyntaxNode :=
  s.stack.reverse.flatMap preorder

theorem step_of_eq_nil {s : FunctionSearch} (h : s.stack = []) : s.step = s := by
  simp [step, h]

theorem step_of_eq_append {s : FunctionSearch} {rest : List SyntaxNode} {n : SyntaxNode}
    (h : s.stack = rest ++ [n]) :
    s.step = ⟨rest ++ n.directChildren.reverse,
      if n.info.kind ∈ functionKinds then s.found ++ [n] else s.found⟩ := by
  simp [step, h]

theorem remaining_of_eq_append {s : FunctionSearch} {rest : List SyntaxNode} {n : SyntaxNode}
    (h : s.stack = rest ++ [n]) :
    s.remaining = n :: (n.directChildren ++ rest.reverse).flatMap preorder := by
  rw [remaining, h, List.reverse_append, List.reverse_singleton, List.singleton_append,
    flatMap_preorder_cons]

theorem remaining_eq_nil {s : FunctionSearch} : s.remaining = [] ↔ s.stack = [] := by
  rcases List.eq_nil_or_concat' s.stack with h | ⟨rest, n, h⟩
  · simp [remaining, h]
  · simp [remaining_of_eq_append h, h]

/-- **A step takes one node off what is to come.** -/
theorem remaining_step (s : FunctionSearch) : s.step.remaining = s.remaining.drop 1 := by
  rcases List.eq_nil_or_concat' s.stack with h | ⟨rest, n, h⟩
  · rw [step_of_eq_nil h, remaining_eq_nil.2 h, List.drop_nil]
  · rw [remaining_of_eq_append h, step_of_eq_append h, remaining, List.reverse_append,
      List.reverse_reverse]
    rfl

/-- A step finds that node if it is a function. -/
theorem found_step (s : FunctionSearch) :
    s.step.found = s.found ++ (s.remaining.take 1).filter (·.info.kind ∈ functionKinds) := by
  rcases List.eq_nil_or_concat' s.stack with h | ⟨rest, n, h⟩
  · rw [step_of_eq_nil h, remaining_eq_nil.2 h]
    simp
  · rw [remaining_of_eq_append h, step_of_eq_append h]
    by_cases hn : n.info.kind ∈ functionKinds <;> simp [hn]

/-- **What is to come after some steps** is pre-order without as many nodes. -/
theorem remaining_iterate (root : SyntaxNode) (k : ℕ) :
    (step^[k] (start root)).remaining = root.preorder.drop k := by
  induction k with
  | zero => simp [start, remaining]
  | succ k ih =>
    rw [Function.iterate_succ_apply', remaining_step, ih, List.drop_drop, Nat.add_comm]

/-- **What is found after some steps** are the functions among as many nodes of pre-order. -/
theorem found_iterate (root : SyntaxNode) (k : ℕ) :
    (step^[k] (start root)).found =
      (root.preorder.take k).filter (·.info.kind ∈ functionKinds) := by
  induction k with
  | zero => rfl
  | succ k ih =>
    rw [Function.iterate_succ_apply', found_step, ih, remaining_iterate, List.take_add,
      List.filter_append]

theorem stack_iterate_eq_nil (root : SyntaxNode) (k : ℕ) :
    (step^[k] (start root)).stack = [] ↔ root.size ≤ k := by
  rw [← remaining_eq_nil, remaining_iterate, List.drop_eq_nil_iff, length_preorder]

end FunctionSearch

namespace SyntaxNode

open FunctionSearch

/-- **The search for functions ends and gives them in pre-order.** The stack is empty after as many
steps as the tree has nodes and not before; what is found by then are the functions of the tree, the
one at each place once, in the order of the pre-order over direct children by which blocks are
collected. -/
theorem functions_preorder (root : SyntaxNode) :
    (∀ k, (step^[k] (start root)).stack = [] ↔ root.size ≤ k) ∧
      (step^[root.size] (start root)).found = root.functions ∧
      ListsOnce root (·.info.kind ∈ functionKinds) root.functions ∧
      root.functions = root.preorder.filter (·.info.kind ∈ functionKinds) ∧
      (∀ n : SyntaxNode, n.preorder = n :: n.directChildren.flatMap preorder) ∧
      ∀ minLength, CodeBlock.extract root minLength =
        root.preorder.foldl (fun table n => CodeBlock.collect minLength n.info table) [] := by
  refine ⟨stack_iterate_eq_nil root, ?_, ?_, functions_eq root, preorder_eq, fun minLength => ?_⟩
  · rw [found_iterate, functions_eq, ← length_preorder, List.take_length]
  · rw [functions_eq]
    exact (listsOnce_preorder root).filter _
  · exact CodeBlock.visit_eq_foldl minLength root []

end SyntaxNode

end SmellScan
