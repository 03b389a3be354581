import Mathlib.Data.List.Infix
import SmellScan.SyntaxNode

/-!
# Addresses in parse trees

A node of a parse tree is named by its address, the indices of the children on the way down from the
root (`nodeAt?`). The nodes on that way, the root and the node itself among them, are its `lineage`.
Two nodes with the same content at different addresses are different nodes, which counts here: of
two equal argument lists of a call, only the first is taken apart (`IsArgumentList`).

`Regular` is what is taken for granted of trees of the grammar.
-/

namespace SmellScan.ParseTree

@[simp] theorem info_node (info : ParseNode) (children : List ParseTree) :
    (node info children).info = info := rfl

@[simp] theorem children_node (info : ParseNode) (children : List ParseTree) :
    (node info children).children = children := rfl

/-- Induction over a tree, with the claim for every child. -/
@[elab_as_elim] theorem inductionOn {motive : ParseTree → Prop}
    (node : ∀ info children, (∀ c ∈ children, motive c) → motive (.node info children)) :
    ∀ t, motive t
  | .node info children => node info children fun c _ => inductionOn node c

/-- The node at an address. -/
def nodeAt? : ParseTree → List ℕ → Option ParseTree
  | t, [] => some t
  | t, i :: addr => (t.children[i]?).bind (nodeAt? · addr)

/-- The nodes on the way to an address, the root first. -/
def lineage (t : ParseTree) (addr : List ℕ) : List ParseTree :=
  addr.inits.filterMap t.nodeAt?

/-- The first of several siblings in the field `arguments` has an index, and is an argument list. -/
def IsArgumentsAmong (siblings : List ParseTree) (i : ℕ) : Prop :=
  (∃ c, siblings[i]? = some c ∧ c.info.field = some "arguments" ∧ c.info.type = "arguments") ∧
    ∀ j < i, ∀ c, siblings[j]? = some c → c.info.field ≠ some "arguments"

/-- The argument list of a call stands at an address. -/
def IsArgumentList (t : ParseTree) (addr : List ℕ) : Prop :=
  ∃ above i call, addr = above ++ [i] ∧ t.nodeAt? above = some call ∧
    call.info.type = "call_expression" ∧ IsArgumentsAmong call.children i

/-- What is taken for granted of a tree of the grammar. -/
structure Regular (t : ParseTree) : Prop where
  /-- A node without a rule of its own has no children. -/
  leaf : ∀ addr n, t.nodeAt? addr = some n → n.info.named = false → n.children = []
  /-- A body has a rule of its own and is neither a comment nor a hash-bang line. -/
  body : ∀ addr n, t.nodeAt? addr = some n →
    ∀ c ∈ n.children, c.info.field = some "body" → c.info.isKept = true

/-! ## One step down -/

variable {t c n : ParseTree} {i : ℕ} {addr : List ℕ}

theorem nodeAt?_cons (hc : t.children[i]? = some c) : t.nodeAt? (i :: addr) = c.nodeAt? addr := by
  rw [nodeAt?, hc, Option.bind_some]

theorem exists_child (h : t.nodeAt? (i :: addr) = some n) :
    ∃ c, t.children[i]? = some c ∧ c.nodeAt? addr = some n :=
  Option.bind_eq_some_iff.1 h

theorem nodeAt?_append {addr' : List ℕ} (h : t.nodeAt? addr = some c) :
    t.nodeAt? (addr ++ addr') = c.nodeAt? addr' := by
  induction addr generalizing t with
  | nil =>
    cases h
    rfl
  | cons i addr ih =>
    obtain ⟨d, hd, hdc⟩ := exists_child h
    rw [List.cons_append, nodeAt?_cons hd, ih hdc]

theorem lineage_nil (t : ParseTree) : t.lineage [] = [t] := rfl

theorem lineage_cons (hc : t.children[i]? = some c) :
    t.lineage (i :: addr) = t :: c.lineage addr := by
  have hstep : (fun above => t.nodeAt? (i :: above)) = c.nodeAt? := by
    funext above
    exact nodeAt?_cons hc
  rw [lineage, List.inits_cons, List.filterMap_cons, nodeAt?, List.filterMap_map]
  exact congrArg (t :: ·) (congrArg (fun f => List.filterMap f addr.inits) hstep)

theorem lineage_eq_cons (t : ParseTree) (addr : List ℕ) :
    t.lineage addr = t :: (t.lineage addr).tail := by
  cases addr with
  | nil => rfl
  | cons i addr => rw [lineage, List.inits_cons, List.filterMap_cons, nodeAt?, List.tail_cons]

theorem not_isArgumentList_nil (t : ParseTree) : ¬t.IsArgumentList [] := by
  rintro ⟨above, i, call, h, -⟩
  simp at h

theorem isArgumentList_singleton :
    t.IsArgumentList [i] ↔
      t.info.type = "call_expression" ∧ IsArgumentsAmong t.children i := by
  constructor
  · rintro ⟨above, j, call, heq, hcall, htype, hargs⟩
    obtain ⟨rfl, rfl⟩ : above = [] ∧ i = j := by
      cases above with
      | nil => simpa using heq
      | cons k above => simp at heq
    cases hcall
    exact ⟨htype, hargs⟩
  · rintro ⟨htype, hargs⟩
    exact ⟨[], i, t, rfl, rfl, htype, hargs⟩

theorem isArgumentList_cons_cons {j : ℕ} (hc : t.children[i]? = some c) :
    t.IsArgumentList (i :: j :: addr) ↔ c.IsArgumentList (j :: addr) := by
  constructor
  · rintro ⟨above, k, call, heq, hcall, hargs⟩
    cases above with
    | nil => simp at heq
    | cons i' above =>
      obtain ⟨rfl, hrest⟩ := List.cons_eq_cons.1 heq
      exact ⟨above, k, call, hrest, (nodeAt?_cons hc).symm.trans hcall, hargs⟩
  · rintro ⟨above, k, call, heq, hcall, hargs⟩
    exact ⟨i :: above, k, call, congrArg (i :: ·) heq, (nodeAt?_cons hc).trans hcall, hargs⟩

theorem isArgumentsAmong_zero {ts : List ParseTree} :
    IsArgumentsAmong (t :: ts) 0 ↔
      t.info.field = some "arguments" ∧ t.info.type = "arguments" := by
  simp [IsArgumentsAmong]

theorem isArgumentsAmong_succ {ts : List ParseTree} :
    IsArgumentsAmong (t :: ts) (i + 1) ↔
      t.info.field ≠ some "arguments" ∧ IsArgumentsAmong ts i := by
  constructor
  · rintro ⟨hi, hbefore⟩
    refine ⟨hbefore 0 (Nat.succ_pos i) t rfl, hi, fun j hj c hc => ?_⟩
    exact hbefore (j + 1) (Nat.succ_lt_succ hj) c hc
  · rintro ⟨ht, hi, hbefore⟩
    refine ⟨hi, fun j hj c hc => ?_⟩
    cases j with
    | zero =>
      cases hc
      exact ht
    | succ j => exact hbefore j (Nat.lt_of_succ_lt_succ hj) c hc

theorem regular_node {info : ParseNode} {cs : List ParseTree} :
    Regular (.node info cs) ↔ (info.named = false → cs = []) ∧
      (∀ c ∈ cs, c.info.field = some "body" → c.info.isKept = true) ∧ ∀ c ∈ cs, c.Regular := by
  constructor
  · intro h
    refine ⟨h.leaf [] _ rfl, h.body [] _ rfl, fun c hc => ?_⟩
    obtain ⟨i, hi⟩ := List.mem_iff_getElem?.1 hc
    exact ⟨fun addr n hn => h.leaf (i :: addr) n ((nodeAt?_cons hi).trans hn),
      fun addr n hn => h.body (i :: addr) n ((nodeAt?_cons hi).trans hn)⟩
  · rintro ⟨hleaf, hbody, hcs⟩
    have hchild : ∀ i addr n, nodeAt? (.node info cs) (i :: addr) = some n →
        ∃ c ∈ cs, c.nodeAt? addr = some n := by
      intro i addr n hn
      obtain ⟨c, hc, hn⟩ := exists_child hn
      exact ⟨c, List.mem_of_getElem? hc, hn⟩
    constructor
    · rintro (- | ⟨i, addr⟩) n hn
      · cases hn
        exact hleaf
      · obtain ⟨c, hc, hn⟩ := hchild i addr n hn
        exact (hcs c hc).leaf addr n hn
    · rintro (- | ⟨i, addr⟩) n hn
      · cases hn
        exact hbody
      · obtain ⟨c, hc, hn⟩ := hchild i addr n hn
        exact (hcs c hc).body addr n hn

/-! ## Nodes on the way -/

/-- Below a node without a rule of its own there is nothing, so what has such a rule has it all the
way up. -/
theorem Regular.named_of_mem_lineage (h : t.Regular) (hn : t.nodeAt? addr = some n)
    (hnamed : n.info.named = true) : ∀ a ∈ t.lineage addr, a.info.named = true := by
  induction addr generalizing t with
  | nil =>
    cases hn
    simpa [lineage_nil] using hnamed
  | cons i addr ih =>
    obtain ⟨c, hc, hcn⟩ := exists_child hn
    obtain ⟨info, cs⟩ := t
    obtain ⟨hleaf, -, hcs⟩ := regular_node.1 h
    have hmem : c ∈ cs := List.mem_of_getElem? hc
    have hroot : info.named = true := by
      by_contra hnot
      rw [hleaf (eq_false_of_ne_true hnot)] at hmem
      exact List.not_mem_nil hmem
    rw [lineage_cons hc]
    exact List.forall_mem_cons.2 ⟨hroot, ih (hcs c hmem) hcn⟩

theorem mem_lineage (hn : t.nodeAt? addr = some n) : n ∈ t.lineage addr := by
  rw [lineage, List.mem_filterMap]
  exact ⟨addr, (List.mem_inits addr addr).2 (List.prefix_refl addr), hn⟩

theorem isKept_iff : t.info.isKept = true ↔ t.info.named = true ∧ t.info.isSkipped = false := by
  simp [ParseNode.isKept]

/-- Below a root that is no comment, the way to a node is kept if and only if it meets no comment
and the node has a rule of its own. -/
theorem forall_kept_iff (ht : t.Regular) (hroot : t.info.isSkipped = false)
    (hn : t.nodeAt? addr = some n) :
    (∀ a ∈ (t.lineage addr).tail, a.info.isKept = true) ↔
      addr = [] ∨ n.info.named = true ∧ ∀ a ∈ t.lineage addr, a.info.isSkipped = false := by
  simp only [isKept_iff]
  constructor
  · intro h
    cases addr with
    | nil => exact Or.inl rfl
    | cons i addr =>
      obtain ⟨c, hc, hcn⟩ := exists_child hn
      rw [lineage_cons hc, List.tail_cons] at h
      rw [lineage_cons hc]
      exact Or.inr ⟨(h n (mem_lineage hcn)).1,
        List.forall_mem_cons.2 ⟨hroot, fun a ha => (h a ha).2⟩⟩
  · rintro (rfl | ⟨hnamed, hskipped⟩) a ha
    · simp [lineage_nil] at ha
    · have hmem : a ∈ t.lineage addr := List.mem_of_mem_tail ha
      exact ⟨ht.named_of_mem_lineage hn hnamed a hmem, hskipped a hmem⟩

end SmellScan.ParseTree
