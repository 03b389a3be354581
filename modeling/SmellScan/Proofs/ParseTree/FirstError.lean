import SmellScan.Proofs.ParseTree.Address

/-!
# The line to blame

A tree with a syntax error is searched with a stack, and children that carry no flag are never put
on it. A step takes one node off the trees on the stack, so the search ends. Pre-order lists every
node, with the nodes above it (`preorder`). What is on the stack stands for the part of pre-order
that is still to come, less what is below a node without a flag, and the search finds the first node
at fault of that part (`firstFault_eq`). Where every fault is flagged, a node at fault has flags all
the way up, so nothing is missed (`firstErrorLine_isFirst`).
-/

namespace SmellScan.ParseTree

/-- A node met in pre-order, with the nodes above it from the root down. -/
structure Visit where
  above : List ParseTree
  node : ParseTree

namespace Visit

/-- The same node, in a tree with one more node on top. -/
def below (t : ParseTree) (v : Visit) : Visit :=
  ⟨t :: v.above, v.node⟩

/-- The way to a node from the root, both included. -/
def path (v : Visit) : List ParseTree :=
  v.above ++ [v.node]

/-- The node itself is an error. -/
def AtFault (v : Visit) : Prop :=
  v.node.info.type = "ERROR" ∨ v.node.info.isMissing = true

/-- The node, and all that is above it except the root, carries a flag. -/
def Flagged (v : Visit) : Prop :=
  ∀ a ∈ v.path.tail, a.info.hasError = true ∨ a.info.isMissing = true

instance (v : Visit) : Decidable v.AtFault :=
  inferInstanceAs (Decidable (_ ∨ _))

instance (v : Visit) : Decidable v.Flagged :=
  inferInstanceAs (Decidable (∀ a ∈ v.path.tail, _))

end Visit

mutual

/-- All nodes of a tree in pre-order. -/
def preorder : ParseTree → List Visit
  | .node info children =>
    ⟨[], .node info children⟩ :: (preorderAll children).map (Visit.below (.node info children))

/-- All nodes of several trees, one tree after the other. -/
def preorderAll : List ParseTree → List Visit
  | [] => []
  | t :: ts => preorder t ++ preorderAll ts

end

/-- The line of the first of the given nodes that is at fault, that of the root `t` if none is. -/
def lineOfFirst (t : ParseTree) (vs : List Visit) : ℤ :=
  ((vs.find? fun v => v.AtFault).elim t Visit.node).info.row + 1

/-- A flag is set on every node at or below which there is a node at fault. -/
def FlagsFaults (t : ParseTree) : Prop :=
  ∀ v ∈ t.preorder, (∃ w ∈ v.node.preorder, w.AtFault) →
    v.node.info.hasError = true ∨ v.node.info.isMissing = true

variable {t a : ParseTree} {v : Visit}

instance (t : ParseTree) : Decidable t.FlagsFaults :=
  inferInstanceAs (Decidable (∀ v ∈ t.preorder, _))

/-! ## Pre-order -/

theorem preorderAll_eq (ts : List ParseTree) : preorderAll ts = ts.flatMap preorder := by
  induction ts with
  | nil => rfl
  | cons t ts ih => rw [preorderAll, ih, List.flatMap_cons]

theorem preorder_eq (t : ParseTree) :
    t.preorder = ⟨[], t⟩ :: (t.children.flatMap preorder).map (Visit.below t) := by
  obtain ⟨info, children⟩ := t
  rw [preorder, preorderAll_eq, children_node]

theorem mem_preorder :
    v ∈ t.preorder ↔ v = ⟨[], t⟩ ∨ ∃ c ∈ t.children, ∃ w ∈ c.preorder, w.below t = v := by
  rw [preorder_eq, List.mem_cons, List.mem_map]
  simp only [List.mem_flatMap]
  constructor
  · rintro (h | ⟨w, ⟨c, hc, hw⟩, h⟩)
    · exact Or.inl h
    · exact Or.inr ⟨c, hc, w, hw, h⟩
  · rintro (h | ⟨c, hc, w, hw, h⟩)
    · exact Or.inl h
    · exact Or.inr ⟨w, ⟨c, hc, hw⟩, h⟩

/-- Every way begins at the root. -/
theorem path_eq_cons (h : v ∈ t.preorder) : v.path = t :: v.path.tail := by
  rcases mem_preorder.1 h with rfl | ⟨c, -, w, -, rfl⟩
  · rfl
  · rfl

/-- A node on the way to another is a node of the tree, and has the other at or below it. -/
theorem exists_mem_preorder_of_mem_path (h : v ∈ t.preorder) (ha : a ∈ v.path) :
    (∃ u ∈ t.preorder, u.node = a) ∧ ∃ w ∈ a.preorder, w.node = v.node := by
  induction t using inductionOn generalizing v with
  | node info children ih =>
    have hroot : ⟨[], .node info children⟩ ∈ (node info children).preorder :=
      mem_preorder.2 (Or.inl rfl)
    rcases mem_preorder.1 h with rfl | ⟨c, hc, w, hw, rfl⟩
    · obtain rfl : a = .node info children := List.mem_singleton.1 ha
      exact ⟨⟨_, hroot, rfl⟩, _, hroot, rfl⟩
    · rcases List.mem_cons.1 ha with rfl | ha
      · exact ⟨⟨_, hroot, rfl⟩, _, h, rfl⟩
      · obtain ⟨⟨u, hu, rfl⟩, hbelow⟩ := ih c hc hw ha
        exact ⟨⟨u.below _, mem_preorder.2 (Or.inr ⟨c, hc, u, hu, rfl⟩), rfl⟩, hbelow⟩

/-! ## The search -/

theorem isFault_iff : v.node.info.isFault = true ↔ v.AtFault := by
  rw [ParseNode.isFault, Bool.or_eq_true, beq_iff_eq, Visit.AtFault]

theorem isSuspect_iff {info : ParseNode} :
    info.isSuspect = true ↔ info.hasError = true ∨ info.isMissing = true := by
  rw [ParseNode.isSuspect, Bool.or_eq_true]

/-- One more node on top does not change which node is the first at fault. -/
theorem find?_map_below (t : ParseTree) (vs : List Visit) :
    ((vs.map (Visit.below t)).find? fun v => v.AtFault) =
      (vs.find? fun v => v.AtFault).map (Visit.below t) := by
  rw [List.find?_map]
  rfl

/-- The nodes of a tree that the search can meet. -/
def reachable (t : ParseTree) : List Visit :=
  t.preorder.filter fun v => v.Flagged

/-- Below another node, the nodes of a tree with a flag on its root are met as they are without that
node, and those of a tree without one are not met at all. -/
theorem filter_flagged_below (t c : ParseTree) :
    (c.preorder.filter fun v => (v.below t).Flagged) =
      if c.info.isSuspect then c.reachable else [] := by
  have hflagged : ∀ v ∈ c.preorder,
      ((v.below t).Flagged ↔ c.info.isSuspect = true ∧ v.Flagged) := by
    intro v hv
    have htail : (v.below t).path.tail = c :: v.path.tail := path_eq_cons hv
    rw [Visit.Flagged, htail, List.forall_mem_cons, isSuspect_iff, Visit.Flagged]
  split_ifs with hc
  · exact List.filter_congr fun v hv => by simp only [hflagged v hv, hc, true_and]
  · exact List.filter_eq_nil_iff.2 fun v hv => by simp [hflagged v hv, hc]

/-- **What can be met in a tree**: its root, and what can be met in those of its children that are
not left out. -/
theorem reachable_eq (t : ParseTree) :
    t.reachable = ⟨[], t⟩ :: ((suspects t.children).flatMap reachable).map (Visit.below t) := by
  have hroot : (⟨[], t⟩ : Visit).Flagged := by simp [Visit.Flagged, Visit.path]
  have hbelow : (t.children.flatMap preorder).filter (fun v => (v.below t).Flagged) =
      (suspects t.children).flatMap reachable := by
    rw [List.filter_flatMap, suspects]
    induction t.children with
    | nil => rfl
    | cons c cs ih =>
      rw [List.flatMap_cons, ih, filter_flagged_below, List.filter_cons]
      split_ifs
      · rw [List.flatMap_cons]
      · rw [List.nil_append]
  rw [reachable, preorder_eq, List.filter_cons_of_pos (by simpa using hroot), List.filter_map]
  exact congrArg (fun vs => ⟨[], t⟩ :: vs.map (Visit.below t)) hbelow

/-- **The search finds the first node at fault** of what can be met in the trees on the stack. The
topmost tree gives way to those of its children that are not left out, which are what can be met in
it behind its root. -/
theorem firstFault_eq (stack : List ParseTree) :
    firstFault stack =
      ((stack.flatMap reachable).find? fun v => v.AtFault).map (·.node.info.line) := by
  fun_induction firstFault stack with
  | case1 => rfl
  | case2 info children stack hfault =>
    have hroot : (⟨[], .node info children⟩ : Visit).AtFault := isFault_iff.1 hfault
    rw [List.flatMap_cons, reachable_eq, List.cons_append,
      List.find?_cons_of_pos (by simpa using hroot)]
    rfl
  | case3 info children stack hfault ih =>
    have hroot : ¬(⟨[], .node info children⟩ : Visit).AtFault := fun h => hfault (isFault_iff.2 h)
    rw [ih, List.flatMap_append, List.flatMap_cons, reachable_eq, List.cons_append,
      List.find?_cons_of_neg (by simpa using hroot), List.find?_append, List.find?_append,
      find?_map_below, children_node]
    cases ((suspects children).flatMap reachable).find? fun v => v.AtFault <;> rfl

/-- Where faults are flagged, the search can meet all nodes at fault. -/
theorem FlagsFaults.flagged (h : t.FlagsFaults) (hv : v ∈ t.preorder) (hfault : v.AtFault) :
    v.Flagged := by
  intro a ha
  obtain ⟨⟨u, hu, rfl⟩, w, hw, hwv⟩ :=
    exists_mem_preorder_of_mem_path hv (List.mem_of_mem_tail ha)
  have hfault' : w.AtFault := by
    rw [Visit.AtFault, hwv]
    exact hfault
  exact h u hu ⟨w, hw, hfault'⟩

theorem firstErrorLine_eq (t : ParseTree) :
    t.firstErrorLine = lineOfFirst t (t.preorder.filter fun v => v.Flagged) := by
  rw [firstErrorLine, firstFault_eq, List.flatMap_cons, List.flatMap_nil, List.append_nil,
    reachable, lineOfFirst]
  cases (t.preorder.filter fun v => v.Flagged).find? fun v => v.AtFault <;> rfl

/-- **The line to blame is that of the first node at fault.** Among the nodes to which flags lead
from the root, it is the first in pre-order; where every fault is flagged, it is the first of all
nodes. If there is none, the line is that of the root. This is the line that is reported of a source
whose tree has an error. -/
theorem firstErrorLine_isFirst (t : ParseTree) :
    t.firstErrorLine = lineOfFirst t (t.preorder.filter fun v => v.Flagged) ∧
      (t.FlagsFaults → t.firstErrorLine = lineOfFirst t t.preorder) ∧
      ∀ refuses text, t.info.hasError = true →
        SyntaxNode.build refuses text t = .error (.syntaxError t.firstErrorLine) := by
  refine ⟨firstErrorLine_eq t, fun h => ?_, fun refuses text herror => if_pos herror⟩
  have hfind : ((t.preorder.filter fun v => v.Flagged).find? fun v => v.AtFault) =
      t.preorder.find? fun v => v.AtFault := by
    rw [← List.head?_filter, ← List.head?_filter, List.filter_filter]
    refine congrArg List.head? (List.filter_congr fun v hv => ?_)
    have hiff : v.AtFault ∧ v.Flagged ↔ v.AtFault := and_iff_left_of_imp (h.flagged hv)
    rw [← Bool.decide_and, decide_eq_decide]
    exact hiff
  rw [firstErrorLine_eq, lineOfFirst, hfind, lineOfFirst]

/-- An error deep on the left, flagged on the way to it, and a missing node on an earlier line. -/
theorem firstErrorLine_isFirst_left :
    let t : ParseTree :=
      .node ⟨"program", true, none, 0, 9, 0, true, false⟩
        [.node ⟨"comment", true, none, 0, 2, 0, false, false⟩ [],
          .node ⟨"statement_block", true, none, 2, 7, 1, true, false⟩
            [.node ⟨"\x7b", false, none, 2, 3, 1, false, false⟩ [],
              .node ⟨"ERROR", true, none, 4, 6, 3, true, false⟩ []],
          .node ⟨";", false, none, 7, 7, 2, false, true⟩ []]
    t.FlagsFaults ∧ t.firstErrorLine = lineOfFirst t t.preorder ∧ lineOfFirst t t.preorder = 4 ∧
      SyntaxNode.build (isDeeperThan 300) "//\n\x7b\n;\n\x7d" t =
        .error (.syntaxError t.firstErrorLine) := by
  intro t
  have ht : t.FlagsFaults := by decide
  obtain ⟨-, hfirst, hreported⟩ := firstErrorLine_isFirst t
  exact ⟨ht, hfirst ht, by decide, hreported _ _ rfl⟩

end SmellScan.ParseTree
