import Mathlib.Data.List.Basic
import SmellScan.Proofs.SyntaxNode.Slots

/-!
# Tours of a tagged tree

The analyses of a tagged tree go over it in pre-order, but each takes the slots of a node in an
order of its own, and one leaves a slot out. A tour is told this order for each kind of node. It
lists the nodes as they are met, each with the nodes above it (`Visit`), and knows nothing of what
an analysis does with them. Whatever the order, a node is met after all that is above it
(`mem_above_tour`).
-/

namespace SmellScan.SyntaxNode

/-- A node met on a tour, with the nodes above it from the root down. -/
structure Visit where
  above : List SyntaxNode
  node : SyntaxNode

/-- The way to a node from the root, both included. -/
def Visit.path (v : Visit) : List SyntaxNode :=
  v.above ++ [v.node]

mutual

/-- The nodes of a tree in pre-order, where `order` gives for each kind of node the slots that are
taken and their order. -/
def tour (order : NodeKind → List Slot) (above : List SyntaxNode) : SyntaxNode → List Visit
  | .mk info body arguments children =>
    ⟨above, .mk info body arguments children⟩ :: (order info.kind).flatMap fun s =>
      match s with
      | .body => tourBody order (above ++ [.mk info body arguments children]) body
      | .arguments => tourAll order (above ++ [.mk info body arguments children]) arguments
      | .children => tourAll order (above ++ [.mk info body arguments children]) children

/-- The nodes of a body. -/
def tourBody (order : NodeKind → List Slot) (above : List SyntaxNode) :
    Body SyntaxNode → List Visit
  | .none => []
  | .one n => tour order above n
  | .seq ns => tourAll order above ns

/-- The nodes of several trees, one after the other. -/
def tourAll (order : NodeKind → List Slot) (above : List SyntaxNode) :
    List SyntaxNode → List Visit
  | [] => []
  | n :: ns => tour order above n ++ tourAll order above ns

end

variable {order : NodeKind → List Slot} {above : List SyntaxNode} {n a : SyntaxNode}
  {vs ws : List Visit}

/-! ## What is above comes first -/

/-- Whatever is above a node of the list, it is in `above` or is met earlier. -/
def AboveFirst (above : List SyntaxNode) (vs : List Visit) : Prop :=
  ∀ before v after, vs = before ++ v :: after →
    ∀ a ∈ v.above, a ∈ above ∨ a ∈ before.map Visit.node

theorem aboveFirst_nil (above : List SyntaxNode) : AboveFirst above [] := by
  intro before v after h
  simp at h

theorem AboveFirst.append (hvs : AboveFirst above vs) (hws : AboveFirst above ws) :
    AboveFirst above (vs ++ ws) := by
  intro before v after h a ha
  rcases List.append_eq_append_iff.1 h with ⟨before', rfl, h'⟩ | ⟨rest, h', hrest⟩
  · -- the node is among the later ones, and all the earlier ones are met before it
    rcases hws before' v after h' a ha with habove | hbefore
    · exact Or.inl habove
    · rw [List.map_append]
      exact Or.inr (List.mem_append_right _ hbefore)
  · cases rest with
    | nil =>
      rw [List.append_nil] at h'
      rcases hws [] v after hrest.symm a ha with habove | hbefore
      · exact Or.inl habove
      · simp at hbefore
    | cons v' rest =>
      obtain ⟨rfl, -⟩ := List.cons.inj hrest
      exact hvs before v rest h' a ha

theorem AboveFirst.flatMap {β : Type} {f : β → List Visit} {bs : List β}
    (h : ∀ b ∈ bs, AboveFirst above (f b)) : AboveFirst above (bs.flatMap f) := by
  induction bs with
  | nil => exact aboveFirst_nil above
  | cons b bs ih =>
    obtain ⟨hb, hbs⟩ := List.forall_mem_cons.1 h
    exact hb.append (ih hbs)

/-- Once a node is met it need not be above all that follows. -/
theorem AboveFirst.cons (h : AboveFirst (above ++ [n]) vs) :
    AboveFirst above (⟨above, n⟩ :: vs) := by
  intro before v after hvs a ha
  cases before with
  | nil =>
    obtain ⟨rfl, -⟩ := List.cons.inj hvs
    exact Or.inl ha
  | cons v' before =>
    obtain ⟨rfl, hbelow⟩ := List.cons.inj hvs
    rw [List.map_cons, List.mem_cons]
    rcases h before v after hbelow a ha with habove | hbefore
    · rcases List.mem_append.1 habove with habove | hn
      · exact Or.inl habove
      · exact Or.inr (Or.inl (List.mem_singleton.1 hn))
    · exact Or.inr (Or.inr hbefore)

mutual

theorem aboveFirst_tour (order : NodeKind → List Slot) (above : List SyntaxNode)
    (n : SyntaxNode) : AboveFirst above (tour order above n) := by
  cases n with
  | mk info body arguments children =>
    rw [tour]
    refine (AboveFirst.flatMap fun s _ => ?_).cons
    cases s with
    | body => exact aboveFirst_tourBody order _ body
    | arguments => exact aboveFirst_tourAll order _ arguments
    | children => exact aboveFirst_tourAll order _ children

theorem aboveFirst_tourBody (order : NodeKind → List Slot) (above : List SyntaxNode)
    (b : Body SyntaxNode) : AboveFirst above (tourBody order above b) := by
  cases b with
  | none => exact aboveFirst_nil above
  | one n => exact aboveFirst_tour order above n
  | seq ns => exact aboveFirst_tourAll order above ns

theorem aboveFirst_tourAll (order : NodeKind → List Slot) (above : List SyntaxNode)
    (ns : List SyntaxNode) : AboveFirst above (tourAll order above ns) := by
  cases ns with
  | nil => exact aboveFirst_nil above
  | cons n ns => exact (aboveFirst_tour order above n).append (aboveFirst_tourAll order above ns)

end

/-- **A node is met after all that is above it.** -/
theorem mem_above_tour {root : SyntaxNode} {before after : List Visit} {v : Visit}
    (h : tour order [] root = before ++ v :: after) (ha : a ∈ v.above) :
    ∃ w ∈ before, w.node = a := by
  rcases aboveFirst_tour order [] root before v after h a ha with hnil | hbefore
  · cases hnil
  · exact List.mem_map.1 hbefore

end SmellScan.SyntaxNode
