import Mathlib.Data.List.Basic
import SmellScan.Proofs.ParseTree.Address

/-!
# Where the nodes in a slot come from

One level of the conversion. `ParseTree.Fills` says without the conversion which nodes below a node
of a parse tree go to which of its slots: a member of a container, the body, the arguments of a
call, any other child. `ParseTree.sources` lists these nodes with the way to them, and a slot of the
converted node holds the conversions of just these nodes in that order (`slot_convert`), which is
the order of the source (`inOrder_sources`).
-/

namespace SmellScan

/-- A slot for the children of a node. -/
inductive Slot where
  | body
  | arguments
  | children
  deriving DecidableEq, Repr

/-- The nodes in a slot. -/
def SyntaxNode.slot (n : SyntaxNode) : Slot → List SyntaxNode
  | .body => n.body.toList
  | .arguments => n.arguments
  | .children => n.children

/-- The nodes in a slot. -/
def Slots.slot (s : Slots) : Slot → List SyntaxNode
  | .body => s.body.toList
  | .arguments => s.arguments
  | .children => s.children

namespace ParseTree

/-- The first of several siblings in the field `body` has an index. -/
def IsBodyAmong (siblings : List ParseTree) (i : ℕ) : Prop :=
  (∃ c, siblings[i]? = some c ∧ c.info.field = some "body") ∧
    ∀ j < i, ∀ c, siblings[j]? = some c → c.info.field ≠ some "body"

/-- The node `c` below a node, at the end of the given way down, goes to a slot. -/
inductive Fills (t : ParseTree) : Slot → List ℕ → ParseTree → Prop where
  /-- What is kept of a container is its body. -/
  | member {j : ℕ} {c : ParseTree} (hseq : t.info.isSequence = true)
      (hc : t.children[j]? = some c) (hkept : c.info.isKept = true) : Fills t .body [j] c
  /-- The first child in the field `body` is the body of any other node. -/
  | body {j : ℕ} {c : ParseTree} (hseq : t.info.isSequence = false)
      (hc : t.children[j]? = some c) (hbody : IsBodyAmong t.children j) : Fills t .body [j] c
  /-- What is kept of the argument list of a call are its arguments. -/
  | argument {k j : ℕ} {l c : ParseTree} (hcall : t.info.type = "call_expression")
      (hl : t.children[k]? = some l) (hargs : IsArgumentsAmong t.children k)
      (hc : l.children[j]? = some c) (hkept : c.info.isKept = true) : Fills t .arguments [k, j] c
  /-- Every other child that is kept stays a child. -/
  | child {j : ℕ} {c : ParseTree} (hseq : t.info.isSequence = false)
      (hc : t.children[j]? = some c) (hkept : c.info.isKept = true)
      (hbody : ¬IsBodyAmong t.children j)
      (hargs : ¬(t.info.type = "call_expression" ∧ IsArgumentsAmong t.children j)) :
      Fills t .children [j] c

/-! ## Siblings -/

/-- The way to a node below one of several siblings, with one more sibling in front. -/
def later : List ℕ → List ℕ
  | [] => []
  | j :: way => (j + 1) :: way

/-- The siblings that are kept, with the way to each. -/
def members : List ParseTree → List (List ℕ × ParseTree)
  | [] => []
  | t :: ts =>
    (if t.info.isKept then [([0], t)] else []) ++ (members ts).map (Prod.map later id)

/-- What the first of several siblings brings to a slot, with the way to it. -/
def headSources (wantsBody wantsArguments : Bool) (t : ParseTree) :
    Slot → List (List ℕ × ParseTree)
  | .body => if wantsBody = true ∧ t.info.field = some "body" then [([0], t)] else []
  | .arguments =>
    if wantsArguments = true ∧ t.info.field = some "arguments" ∧ t.info.type = "arguments" then
      (members t.children).map (Prod.map (0 :: ·) id)
    else []
  | .children =>
    if t.info.isKept = true ∧ ¬(wantsBody = true ∧ t.info.field = some "body") ∧
        ¬(wantsArguments = true ∧ t.info.field = some "arguments" ∧ t.info.type = "arguments") then
      [([0], t)]
    else []

/-- The nodes among several siblings, and below the argument list among them, that go to a slot,
with the way to each. -/
def slotSources (s : Slot) (wantsBody wantsArguments : Bool) :
    List ParseTree → List (List ℕ × ParseTree)
  | [] => []
  | t :: ts =>
    headSources wantsBody wantsArguments t s ++
      (slotSources s (wantsBody && t.info.field != some "body")
        (wantsArguments && t.info.field != some "arguments") ts).map (Prod.map later id)

/-- What it is for siblings to go to a slot. -/
def FillsAmong (wantsBody wantsArguments : Bool) (ts : List ParseTree) (way : List ℕ)
    (c : ParseTree) : Slot → Prop
  | .body => wantsBody = true ∧ ∃ j b, ts[j]? = some b ∧ IsBodyAmong ts j ∧ way = [j] ∧ c = b
  | .arguments => wantsArguments = true ∧ ∃ k l, ts[k]? = some l ∧ IsArgumentsAmong ts k ∧
      ∃ j, l.children[j]? = some c ∧ c.info.isKept = true ∧ way = [k, j]
  | .children => ∃ j b, ts[j]? = some b ∧ b.info.isKept = true ∧
      ¬(wantsBody = true ∧ IsBodyAmong ts j) ∧ ¬(wantsArguments = true ∧ IsArgumentsAmong ts j) ∧
        way = [j] ∧ c = b

variable {t c : ParseTree} {ts : List ParseTree} {i : ℕ} {way : List ℕ}

theorem isBodyAmong_zero : IsBodyAmong (t :: ts) 0 ↔ t.info.field = some "body" := by
  simp [IsBodyAmong]

theorem isBodyAmong_succ :
    IsBodyAmong (t :: ts) (i + 1) ↔ t.info.field ≠ some "body" ∧ IsBodyAmong ts i := by
  constructor
  · rintro ⟨hi, hbefore⟩
    refine ⟨hbefore 0 (Nat.succ_pos i) t rfl, hi, fun j hj c hc => ?_⟩
    exact hbefore (j + 1) (Nat.succ_lt_succ hj) c hc
  · rintro ⟨ht, hi, hbefore⟩
    refine ⟨hi, fun j hj c hc => ?_⟩
    cases j with
    | zero =>
      cases hc
      exact ht
    | succ j => exact hbefore j (Nat.lt_of_succ_lt_succ hj) c hc

theorem exists_getElem?_cons {α : Type} {P : ℕ → α → Prop} {a : α} {as : List α} :
    (∃ i c, (a :: as)[i]? = some c ∧ P i c) ↔ P 0 a ∨ ∃ i c, as[i]? = some c ∧ P (i + 1) c := by
  constructor
  · rintro ⟨- | i, c, hc, hP⟩
    · cases hc
      exact Or.inl hP
    · exact Or.inr ⟨i, c, hc, hP⟩
  · rintro (hP | ⟨i, c, hc, hP⟩)
    · exact ⟨0, a, rfl, hP⟩
    · exact ⟨i + 1, c, hc, hP⟩

theorem mem_map_later {es : List (List ℕ × ParseTree)} :
    (way, c) ∈ es.map (Prod.map later id) ↔ ∃ way', (way', c) ∈ es ∧ way = later way' := by
  simp only [List.mem_map, Prod.exists, Prod.map_apply, id_eq, Prod.mk.injEq]
  constructor
  · rintro ⟨way', c', h, rfl, rfl⟩
    exact ⟨way', h, rfl⟩
  · rintro ⟨way', h, rfl⟩
    exact ⟨way', c, h, rfl, rfl⟩

theorem mem_members :
    (way, c) ∈ members ts ↔
      ∃ j b, ts[j]? = some b ∧ b.info.isKept = true ∧ way = [j] ∧ c = b := by
  induction ts generalizing way with
  | nil => simp [members]
  | cons t ts ih =>
    rw [members, List.mem_append, mem_map_later, exists_getElem?_cons]
    refine or_congr ?_ ?_
    · by_cases ht : t.info.isKept = true <;> simp [ht]
    · simp only [ih]
      constructor
      · rintro ⟨way', ⟨j, b, hb, hkept, rfl, rfl⟩, rfl⟩
        exact ⟨j, c, hb, hkept, rfl, rfl⟩
      · rintro ⟨j, b, hb, hkept, rfl, rfl⟩
        exact ⟨[j], ⟨j, c, hb, hkept, rfl, rfl⟩, rfl⟩

/-- The sources of a slot are the nodes that go to it: the first sibling brings its own, and the
others do as they would without it, only that it may have taken the place they want. -/
theorem mem_slotSources (s : Slot) (wantsBody wantsArguments : Bool) :
    (way, c) ∈ slotSources s wantsBody wantsArguments ts ↔
      FillsAmong wantsBody wantsArguments ts way c s := by
  induction ts generalizing way wantsBody wantsArguments with
  | nil => cases s <;> simp [slotSources, FillsAmong]
  | cons t ts ih =>
    rw [slotSources, List.mem_append, mem_map_later]
    simp only [ih]
    cases s with
    | body =>
      simp only [FillsAmong, exists_getElem?_cons, and_or_left, isBodyAmong_zero, isBodyAmong_succ,
        Bool.and_eq_true, bne_iff_ne]
      refine or_congr ?_ ?_
      · rw [headSources]
        split_ifs with h
        · simp [h]
        · refine ⟨fun hmem => absurd hmem List.not_mem_nil, ?_⟩
          exact fun ⟨hwants, hfield, _⟩ => absurd ⟨hwants, hfield⟩ h
      · constructor
        · rintro ⟨way', ⟨⟨hwants, hfield⟩, j, b, hb, hbody, rfl, rfl⟩, rfl⟩
          exact ⟨hwants, j, c, hb, ⟨hfield, hbody⟩, rfl, rfl⟩
        · rintro ⟨hwants, j, b, hb, ⟨hfield, hbody⟩, rfl, rfl⟩
          exact ⟨[j], ⟨⟨hwants, hfield⟩, j, c, hb, hbody, rfl, rfl⟩, rfl⟩
    | arguments =>
      simp only [FillsAmong, exists_getElem?_cons, and_or_left, isArgumentsAmong_zero,
        isArgumentsAmong_succ, Bool.and_eq_true, bne_iff_ne]
      refine or_congr ?_ ?_
      · rw [headSources]
        split_ifs with h
        · simp only [h, true_and, and_self, List.mem_map, Prod.exists, Prod.map_apply, id_eq,
            Prod.mk.injEq, mem_members]
          constructor
          · rintro ⟨way', c', ⟨j, b, hb, hkept, rfl, rfl⟩, rfl, rfl⟩
            exact ⟨j, hb, hkept, rfl⟩
          · rintro ⟨j, hb, hkept, rfl⟩
            exact ⟨[j], c, ⟨j, c, hb, hkept, rfl, rfl⟩, rfl, rfl⟩
        · refine ⟨fun hmem => absurd hmem List.not_mem_nil, ?_⟩
          exact fun ⟨hwants, ⟨hfield, htype⟩, _⟩ => absurd ⟨hwants, hfield, htype⟩ h
      · constructor
        · rintro ⟨way', ⟨⟨hwants, hfield⟩, k, l, hl, hargs, j, hj, hkept, rfl⟩, rfl⟩
          exact ⟨hwants, k, l, hl, ⟨hfield, hargs⟩, j, hj, hkept, rfl⟩
        · rintro ⟨hwants, k, l, hl, ⟨hfield, hargs⟩, j, hj, hkept, rfl⟩
          exact ⟨[k, j], ⟨⟨hwants, hfield⟩, k, l, hl, hargs, j, hj, hkept, rfl⟩, rfl⟩
    | children =>
      simp only [FillsAmong, exists_getElem?_cons, isBodyAmong_zero, isBodyAmong_succ,
        isArgumentsAmong_zero, isArgumentsAmong_succ, Bool.and_eq_true, bne_iff_ne]
      refine or_congr ?_ ?_
      · rw [headSources]
        split_ifs with h
        · simp [h]
        · refine ⟨fun hmem => absurd hmem List.not_mem_nil, ?_⟩
          exact fun ⟨hkept, hbody, hargs, _⟩ => absurd ⟨hkept, hbody, hargs⟩ h
      · constructor
        · rintro ⟨way', ⟨j, b, hb, hkept, hbody, hargs, rfl, rfl⟩, rfl⟩
          exact ⟨j, c, hb, hkept, fun h => hbody ⟨⟨h.1, h.2.1⟩, h.2.2⟩,
            fun h => hargs ⟨⟨h.1, h.2.1⟩, h.2.2⟩, rfl, rfl⟩
        · rintro ⟨j, b, hb, hkept, hbody, hargs, rfl, rfl⟩
          exact ⟨[j], ⟨j, c, hb, hkept, fun h => hbody ⟨h.1.1, h.1.2, h.2⟩,
            fun h => hargs ⟨h.1.1, h.1.2, h.2⟩, rfl, rfl⟩, rfl⟩

/-! ## Order -/

/-- The ways to some nodes come in the order of the source. -/
def InOrder (es : List (List ℕ × ParseTree)) : Prop :=
  es.Pairwise fun e e' => e.1 < e'.1

theorem InOrder.lt_of_getElem? {es : List (List ℕ × ParseTree)} (hes : InOrder es) {j : ℕ}
    {e e' : List ℕ × ParseTree} (hij : i < j) (he : es[i]? = some e) (he' : es[j]? = some e') :
    e.1 < e'.1 := by
  obtain ⟨hi, rfl⟩ := List.getElem?_eq_some_iff.1 he
  obtain ⟨hj, rfl⟩ := List.getElem?_eq_some_iff.1 he'
  exact List.pairwise_iff_getElem.1 hes i j hi hj hij

/-- No two entries have the same way. -/
theorem InOrder.index_eq {es : List (List ℕ × ParseTree)} (hes : InOrder es) {j : ℕ}
    {e e' : List ℕ × ParseTree} (he : es[i]? = some e) (he' : es[j]? = some e')
    (heq : e.1 = e'.1) : i = j := by
  rcases Nat.lt_trichotomy i j with hij | rfl | hij
  · exact absurd (heq ▸ hes.lt_of_getElem? hij he he') (List.lt_irrefl _)
  · rfl
  · exact absurd (heq ▸ hes.lt_of_getElem? hij he' he) (List.lt_irrefl _)

/-- What the first sibling brings is before what the others bring. -/
theorem InOrder.append_later {es es' : List (List ℕ × ParseTree)} (hes : InOrder es)
    (hes' : InOrder es') (hhead : ∀ e ∈ es, ∃ way, e.1 = 0 :: way)
    (hne : ∀ e ∈ es', e.1 ≠ []) : InOrder (es ++ es'.map (Prod.map later id)) := by
  refine List.pairwise_append.2 ⟨hes, List.pairwise_map.2 (hes'.imp_of_mem ?_), ?_⟩
  · rintro ⟨way, c⟩ ⟨way', c'⟩ h h' hlt
    cases way with
    | nil => exact absurd rfl (hne _ h)
    | cons j way =>
      cases way' with
      | nil => exact absurd rfl (hne _ h')
      | cons j' way' =>
        simp only [Prod.map_apply, later, List.cons_lt_cons_iff] at hlt ⊢
        rcases hlt with hlt | ⟨rfl, hlt⟩
        · exact Or.inl (Nat.succ_lt_succ hlt)
        · exact Or.inr ⟨rfl, hlt⟩
  · rintro e he e' he'
    obtain ⟨way, hway⟩ := hhead e he
    obtain ⟨⟨way', c'⟩, hmem, rfl⟩ := List.mem_map.1 he'
    cases way' with
    | nil => exact absurd rfl (hne _ hmem)
    | cons j' way' =>
      rw [hway]
      exact List.cons_lt_cons_iff.2 (Or.inl (Nat.succ_pos j'))

theorem inOrder_members (ts : List ParseTree) : InOrder (members ts) := by
  induction ts with
  | nil => exact List.Pairwise.nil
  | cons t ts ih =>
    refine InOrder.append_later ?_ ih ?_ ?_
    · split_ifs <;> simp [InOrder]
    · split_ifs <;> simp
    · rintro ⟨way, c⟩ hmem
      obtain ⟨j, b, -, -, rfl, -⟩ := mem_members.1 hmem
      exact List.cons_ne_nil j []

theorem FillsAmong.ne_nil {s : Slot} {wantsBody wantsArguments : Bool}
    (h : FillsAmong wantsBody wantsArguments ts way c s) : way ≠ [] := by
  cases s with
  | body =>
    obtain ⟨-, j, b, -, -, rfl, -⟩ := h
    exact List.cons_ne_nil j []
  | arguments =>
    obtain ⟨-, k, l, -, -, j, -, -, rfl⟩ := h
    exact List.cons_ne_nil k [j]
  | children =>
    obtain ⟨j, b, -, -, -, -, rfl, -⟩ := h
    exact List.cons_ne_nil j []

theorem inOrder_headSources (wantsBody wantsArguments : Bool) (t : ParseTree) (s : Slot) :
    InOrder (headSources wantsBody wantsArguments t s) := by
  cases s with
  | body =>
    rw [headSources]
    split_ifs <;> simp [InOrder]
  | arguments =>
    rw [headSources]
    split_ifs
    · refine List.pairwise_map.2 ((inOrder_members t.children).imp fun hlt => ?_)
      exact List.cons_lt_cons_iff.2 (Or.inr ⟨rfl, hlt⟩)
    · exact List.Pairwise.nil
  | children =>
    rw [headSources]
    split_ifs <;> simp [InOrder]

theorem exists_zero_of_mem_headSources {s : Slot} {wantsBody wantsArguments : Bool}
    {e : List ℕ × ParseTree} (h : e ∈ headSources wantsBody wantsArguments t s) :
    ∃ way, e.1 = 0 :: way := by
  cases s <;> rw [headSources] at h <;> split_ifs at h <;> grind

theorem inOrder_slotSources (s : Slot) (wantsBody wantsArguments : Bool) (ts : List ParseTree) :
    InOrder (slotSources s wantsBody wantsArguments ts) := by
  induction ts generalizing wantsBody wantsArguments with
  | nil => exact List.Pairwise.nil
  | cons t ts ih =>
    refine InOrder.append_later (inOrder_headSources _ _ t s) (ih _ _) ?_ ?_
    · exact fun e he => exists_zero_of_mem_headSources he
    · exact fun e he => FillsAmong.ne_nil ((mem_slotSources s _ _).1 he)

/-! ## The sources of a slot -/

/-- The nodes that go to a slot of a node, with the way to each, in the order of the source. -/
def sources (t : ParseTree) (s : Slot) : List (List ℕ × ParseTree) :=
  if t.info.isSequence then if s = .body then members t.children else []
  else slotSources s true (t.info.type == "call_expression") t.children

theorem inOrder_sources (t : ParseTree) (s : Slot) : InOrder (t.sources s) := by
  unfold sources
  split_ifs
  · exact inOrder_members t.children
  · exact List.Pairwise.nil
  · exact inOrder_slotSources s _ _ _

theorem not_call_of_isSequence (h : t.info.isSequence = true) :
    t.info.type ≠ "call_expression" := by
  intro htype
  simp [ParseNode.isSequence, htype] at h

/-- **The sources of a slot are the nodes that go to it.** -/
theorem mem_sources {s : Slot} : (way, c) ∈ t.sources s ↔ t.Fills s way c := by
  unfold sources
  split_ifs with hseq hs
  · subst hs
    rw [mem_members]
    constructor
    · rintro ⟨j, b, hb, hkept, rfl, rfl⟩
      exact .member hseq hb hkept
    · rintro (⟨-, hc, hkept⟩ | ⟨hnot, -, -⟩)
      · exact ⟨_, c, hc, hkept, rfl, rfl⟩
      · rw [hseq] at hnot
        cases hnot
  · refine ⟨fun h => absurd h List.not_mem_nil, fun h => ?_⟩
    cases h with
    | member => exact absurd rfl hs
    | body => exact absurd rfl hs
    | argument htype => exact absurd htype (not_call_of_isSequence hseq)
    | child hnot =>
      rw [hseq] at hnot
      cases hnot
  · have hnot : t.info.isSequence = false := eq_false_of_ne_true hseq
    rw [mem_slotSources]
    constructor
    · intro h
      cases s with
      | body =>
        obtain ⟨-, j, b, hb, hbody, rfl, rfl⟩ := h
        exact .body hnot hb hbody
      | arguments =>
        obtain ⟨htype, k, l, hl, hargs, j, hj, hkept, rfl⟩ := h
        exact .argument (eq_of_beq htype) hl hargs hj hkept
      | children =>
        obtain ⟨j, b, hb, hkept, hbody, hargs, rfl, rfl⟩ := h
        refine .child hnot hb hkept (fun h => hbody ⟨rfl, h⟩) fun h => hargs ⟨?_, h.2⟩
        exact beq_iff_eq.2 h.1
    · intro h
      cases h with
      | member hseq' => exact absurd hseq' hseq
      | body _ hc hbody => exact ⟨rfl, _, c, hc, hbody, rfl, rfl⟩
      | argument htype hl hargs hc hkept =>
        exact ⟨beq_iff_eq.2 htype, _, _, hl, hargs, _, hc, hkept, rfl⟩
      | child _ hc hkept hbody hargs =>
        exact ⟨_, c, hc, hkept, fun h => hbody h.2,
          fun h => hargs ⟨beq_iff_eq.1 h.1, h.2⟩, rfl, rfl⟩

end ParseTree

/-! ## One level of the conversion -/

namespace SyntaxNode

open ParseTree

theorem ofType_eq_callExpression {parent : Option String} {type : String} :
    NodeKind.ofType parent type = .callExpression ↔ type = "call_expression" := by
  unfold NodeKind.ofType
  split_ifs <;> grind

/-- The type that a node in a slot sees as that of its parent. -/
def parentType (parent : String) : Slot → String
  | .arguments => "arguments"
  | .body | .children => parent

theorem convertAll_eq (source : List UInt8) (parent : String) (ts : List ParseTree) :
    convertAll source parent ts =
      (members ts).map fun e => convert source (some parent) e.2 := by
  induction ts with
  | nil => rfl
  | cons t ts ih =>
    rw [convertAll, members, List.map_append, List.map_map, ih]
    split_ifs <;> rfl

theorem body_convertSlots {source : List UInt8} {parent : String} (wantsArguments : Bool)
    (ts : List ParseTree) : (convertSlots source parent false wantsArguments ts).body = none := by
  induction ts generalizing wantsArguments with
  | nil => rfl
  | cons t ts ih =>
    obtain ⟨info, children⟩ := t
    rw [convertSlots, Bool.false_and, if_neg Bool.false_ne_true]
    split_ifs
    · exact ih false
    · exact ih _
    · exact ih _

theorem arguments_convertSlots {source : List UInt8} {parent : String} (wantsBody : Bool)
    (ts : List ParseTree) : (convertSlots source parent wantsBody false ts).arguments = [] := by
  induction ts generalizing wantsBody with
  | nil => rfl
  | cons t ts ih =>
    obtain ⟨info, children⟩ := t
    rw [convertSlots, Bool.false_and, Bool.false_and, if_neg Bool.false_ne_true]
    split_ifs
    · exact ih false
    · exact ih _
    · exact ih _

/-- **Sorting into slots**: each slot holds the conversions of its sources. -/
theorem slot_convertSlots (source : List UInt8) (parent : String) (s : Slot)
    (wantsBody wantsArguments : Bool) (ts : List ParseTree) :
    (convertSlots source parent wantsBody wantsArguments ts).slot s =
      (slotSources s wantsBody wantsArguments ts).map
        fun e => convert source (some (parentType parent s)) e.2 := by
  induction ts generalizing wantsBody wantsArguments with
  | nil => cases s <;> rfl
  | cons t ts ih =>
    obtain ⟨info, children⟩ := t
    rw [convertSlots, slotSources, List.map_append, List.map_map]
    simp only [Function.comp_def, Prod.map_snd, id_eq, info_node]
    rw [← ih]
    by_cases hb : wantsBody = true ∧ info.field = some "body"
    · obtain ⟨rfl, hfield⟩ := hb
      have hbody : (true && info.field != some "body") = false := by simp [hfield]
      have hargs : (wantsArguments && info.field != some "arguments") = wantsArguments := by
        simp [hfield, bne]
      rw [if_pos (by simp [hfield]), hbody, hargs]
      cases s <;> simp [headSources, hfield, Slots.slot, body_convertSlots, parentType]
    have hbody : (wantsBody && info.field != some "body") = wantsBody := by
      cases wantsBody with
      | false => rfl
      | true => simpa using hb
    rw [if_neg (by simpa using hb), hbody]
    by_cases ha : wantsArguments = true ∧
        info.field = some "arguments" ∧ info.type = "arguments"
    · obtain ⟨rfl, hfield, htype⟩ := ha
      have hargs : (true && info.field != some "arguments") = false := by simp [hfield]
      rw [if_pos (by simp [hfield, htype]), hargs]
      cases s <;> simp [headSources, hfield, htype, Slots.slot, arguments_convertSlots, parentType,
        convertAll_eq]
    rw [if_neg (by simpa [and_assoc] using ha)]
    -- what is left is a child like any other
    have hnobody : headSources wantsBody wantsArguments (node info children) .body = [] := if_neg hb
    have hnoargs : headSources wantsBody wantsArguments (node info children) .arguments = [] :=
      if_neg ha
    cases s with
    | body =>
      rw [hnobody]
      split_ifs <;> rfl
    | arguments =>
      rw [hnoargs]
      split_ifs <;> rfl
    | children =>
      by_cases hk : info.isKept = true
      · have hhead : headSources wantsBody wantsArguments (node info children) .children =
            [([0], node info children)] := if_pos ⟨hk, hb, ha⟩
        rw [if_pos hk, hhead]
        rfl
      · have hhead : headSources wantsBody wantsArguments (node info children) .children = [] :=
          if_neg fun h => hk h.1
        rw [if_neg hk, hhead]
        rfl

theorem toList_ofOption {α : Type} (a : Option α) : (Body.ofOption a).toList = a.toList := by
  cases a <;> rfl

/-- **A slot of a converted node holds the conversions of its sources.** -/
theorem slot_convert (source : List UInt8) (p : Option String) (t : ParseTree) (s : Slot) :
    (convert source p t).slot s =
      (t.sources s).map fun e => convert source (some (parentType t.info.type s)) e.2 := by
  obtain ⟨info, children⟩ := t
  have hkind : ((infoOf source p info children).kind == .callExpression) =
      (info.type == "call_expression") := by
    rw [Bool.eq_iff_iff, beq_iff_eq, beq_iff_eq]
    exact ofType_eq_callExpression
  by_cases hseq : info.isSequence = true
  · have hsources : (node info children).sources s = if s = .body then members children else [] :=
      if_pos hseq
    rw [convert, if_pos hseq, hsources]
    cases s with
    | body => exact convertAll_eq source info.type children
    | arguments => rfl
    | children => rfl
  · have hsources : (node info children).sources s =
        slotSources s true (info.type == "call_expression") children := if_neg hseq
    rw [convert, if_neg hseq, hsources, ← hkind, info_node, ← slot_convertSlots]
    cases s with
    | body => exact toList_ofOption _
    | arguments => rfl
    | children => rfl

theorem line_convert {source : List UInt8} (p : Option String) (t : ParseTree) :
    (convert source p t).info.line = some t.info.line := by
  obtain ⟨info, children⟩ := t
  rw [convert]
  split_ifs <;> rfl

theorem type_convert {source : List UInt8} (p : Option String) (t : ParseTree) :
    (convert source p t).info.type = t.info.type := by
  obtain ⟨info, children⟩ := t
  rw [convert]
  split_ifs <;> rfl

/-- A tree that is built is the conversion of the whole parse tree. -/
theorem eq_convert_of_build {refuses : ParseTree → Bool} {text : String} {t : ParseTree}
    {tree : SyntaxNode} (h : build refuses text t = .ok tree) :
    tree = convert (Text.encodeUtf8 text.toList) none t := by
  unfold build at h
  split_ifs at h
  cases h
  rfl

end SyntaxNode

end SmellScan
