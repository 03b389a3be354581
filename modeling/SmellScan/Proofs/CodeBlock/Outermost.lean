import SmellScan.Proofs.CodeBlock.Extraction
import SmellScan.Proofs.SyntaxNode.Tour

/-!
# The outermost block of each line

What an extractor collects from a tree, said without its recursion. It tours the tree, children
before arguments and arguments before the body, and of the nodes that may be blocks
(`eligibleLine?`) it keeps the first on each line. A node is met after all that is above it, so the
first on a line has no other above it on that line. An extractor drops what it holds before it goes
over a tree, so the blocks of a tree are the same whatever trees came before it
(`extractAll_outermost`).
-/

namespace SmellScan.CodeBlock

open SyntaxNode

/-- The kinds of node that are collected. -/
def blockKinds : List NodeKind :=
  [.functionDeclaration, .classMethod, .arrowFunction]

/-- The slots of a node as the extractor takes them. -/
def slotOrder (_ : NodeKind) : List Slot :=
  [.children, .arguments, .body]

/-- The line of a node that may be a block: it is of the right kind, has a line, and has a text of
at least `minLength` characters. -/
def eligibleLine? (minLength : ℤ) (n : SyntaxNode) : Option ℤ :=
  if n.info.kind ∈ blockKinds ∧ ∃ text ∈ n.info.text, minLength ≤ text.length then n.info.line
  else none

/-- The block of a node: its line, kind and text, and its name unless it has none or an empty
one. -/
structure IsBlockOf (n : SyntaxNode) (block : CodeBlock) : Prop where
  line : n.info.line = some block.line
  kind : block.kind = n.info.kind
  text : n.info.text = some block.text
  named : ∀ name, n.info.name = some name → name ≠ "" → block.name = name
  anonymous : n.info.name = none ∨ n.info.name = some "" → block.name = "anonymous"

/-- The visited node is the first on a line of those that may be blocks, and none of them is above
it on that line. -/
structure IsOutermost (minLength : ℤ) (root : SyntaxNode) (line : ℤ) (v : Visit) : Prop where
  eligible : eligibleLine? minLength v.node = some line
  first : ∃ before after, tour slotOrder [] root = before ++ v :: after ∧
    ∀ w ∈ before, eligibleLine? minLength w.node ≠ some line
  above : ∀ a ∈ v.above, eligibleLine? minLength a ≠ some line

/-- The table has the lines of the nodes that may be blocks as its keys, each once and in the order
of the first visit, and at each line it holds the block of the outermost node. -/
structure HoldsOutermost (minLength : ℤ) (root : SyntaxNode) (table : BlockTable) : Prop where
  keys : table.map Prod.fst =
    firsts id ((tour slotOrder [] root).filterMap fun v => eligibleLine? minLength v.node)
  blocks : ∀ line block, (line, block) ∈ table →
    ∃ v, IsOutermost minLength root line v ∧ IsBlockOf v.node block

/-! ## Blocks of nodes -/

theorem isBlock_eq (kind : NodeKind) : kind.isBlock = decide (kind ∈ blockKinds) := by
  cases kind <;> rfl

theorem map_line_ofInfo? (minLength : ℤ) (n : SyntaxNode) :
    (ofInfo? minLength n.info).map CodeBlock.line = eligibleLine? minLength n := by
  rw [ofInfo?, isBlock_eq, eligibleLine?]
  by_cases hkind : n.info.kind ∈ blockKinds
  · cases n.info.line with
    | none => simp [hkind]
    | some line =>
      cases n.info.text with
      | none => simp [hkind]
      | some text =>
        by_cases hshort : text.length < minLength
        · simp [hkind, hshort]
        · simp [hkind, hshort, Int.not_lt.1 hshort]
  · simp [hkind]

theorem isBlockOf_of_ofInfo? {minLength : ℤ} {n : SyntaxNode} {block : CodeBlock}
    (h : ofInfo? minLength n.info = some block) : IsBlockOf n block := by
  unfold ofInfo? at h
  split_ifs at h with hkind
  split at h
  · rename_i line text hline htext
    split_ifs at h with hshort
    cases h
    refine ⟨hline, rfl, htext, ?_, ?_⟩
    · intro name hname hne
      simp [hname, nameOr, hne]
    · rintro (hname | hname) <;> simp [hname, nameOr, CodeBlock.anonymous]
  · cases h

/-! ## The pre-order is a tour -/

mutual

/-- The nodes of the tour are those of the pre-order. -/
theorem map_node_tour (above : List SyntaxNode) (n : SyntaxNode) :
    (tour slotOrder above n).map Visit.node = n.preorder := by
  cases n with
  | mk info body arguments children =>
    rw [preorder, tour, slotOrder]
    simp [map_node_tourAll _ children, map_node_tourAll _ arguments, map_node_tourBody _ body]

theorem map_node_tourBody (above : List SyntaxNode) (b : Body SyntaxNode) :
    (tourBody slotOrder above b).map Visit.node = preorderBody b := by
  cases b with
  | none => rfl
  | one n => exact map_node_tour above n
  | seq ns => exact map_node_tourAll above ns

theorem map_node_tourAll (above : List SyntaxNode) (ns : List SyntaxNode) :
    (tourAll slotOrder above ns).map Visit.node = preorderAll ns := by
  cases ns with
  | nil => rfl
  | cons n ns =>
    rw [preorderAll, tourAll, List.map_append, map_node_tour above n, map_node_tourAll above ns]

end

theorem extract_eq_firstVisits (root : SyntaxNode) (minLength : ℤ) :
    extract root minLength = firsts Prod.fst
      ((tour slotOrder [] root).filterMap fun v => keyedBlock? minLength v.node) := by
  rw [extract_eq_firsts, ← map_node_tour [], List.filterMap_map]
  rfl

/-! ## One tree after the other -/

/-- The blocks of one tree. -/
theorem holdsOutermost_extract (root : SyntaxNode) (minLength : ℤ) :
    HoldsOutermost minLength root (extract root minLength) := by
  rw [extract_eq_firstVisits]
  constructor
  · have hkeys := firsts_map id Prod.fst
      ((tour slotOrder [] root).filterMap fun v => keyedBlock? minLength v.node)
    rw [List.map_filterMap] at hkeys
    refine hkeys.symm.trans (congrArg (firsts id) (List.filterMap_congr fun v _ => ?_))
    rw [keyedBlock?, Option.map_map]
    exact map_line_ofInfo? minLength v.node
  · intro line block hmem
    obtain ⟨before, v, after, hsplit, hv, hfirst⟩ := exists_append_of_mem_firsts Prod.fst hmem
    obtain ⟨block', hblock, heq⟩ := Option.map_eq_some_iff.1 hv
    cases heq
    have heligible : eligibleLine? minLength v.node = some block.line := by
      rw [← map_line_ofInfo?, hblock, Option.map_some]
    have hbefore : ∀ w ∈ before, eligibleLine? minLength w.node ≠ some block.line := by
      intro w hw hline
      rw [← map_line_ofInfo?] at hline
      obtain ⟨other, hother, hsame⟩ := Option.map_eq_some_iff.1 hline
      refine hfirst w hw (other.line, other) ?_ hsame
      rw [keyedBlock?, hother, Option.map_some]
    refine ⟨v, ⟨heligible, ⟨before, after, hsplit, hbefore⟩, ?_⟩, isBlockOf_of_ofInfo? hblock⟩
    -- what is above the node is met before it, and so is not on its line
    intro a ha
    obtain ⟨w, hw, rfl⟩ := mem_above_tour hsplit ha
    exact hbefore w hw

/-- **An extractor keeps the outermost block of each line**, in every tree that it goes over,
whatever it went over before. -/
theorem extractAll_outermost (extractor : Extractor) (trees : List SyntaxNode) :
    List.Forall₂ (HoldsOutermost extractor.minLength) trees (extractor.extractAll trees) := by
  induction trees generalizing extractor with
  | nil => exact List.Forall₂.nil
  | cons root trees ih =>
    exact List.Forall₂.cons (holdsOutermost_extract root extractor.minLength)
      (ih (extractor.extract root).2)

end SmellScan.CodeBlock
