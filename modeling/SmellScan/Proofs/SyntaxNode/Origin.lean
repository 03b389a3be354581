import Mathlib.Data.Set.Function
import SmellScan.Proofs.SyntaxNode.Slots

/-!
# The conversion neither loses nor duplicates a node

A node of the tagged tree is named by its place, the slots and indices on the way down from the
root. Every place has an origin in the parse tree: the way to a source of each slot, one after the
other (`origin`). The way to a source is one step down, or two for an argument, and no such way
begins another (`Fills.eq_of_append_eq`). So no two places have the same origin, and whatever is
kept of the parse tree, argument lists apart, is the origin of some place (`isOrigin_build`).
-/

namespace SmellScan

/-- The node at a place. -/
def SyntaxNode.nodeAt? : SyntaxNode → List (Slot × ℕ) → Option SyntaxNode
  | n, [] => some n
  | n, (s, i) :: place => ((n.slot s)[i]?).bind (nodeAt? · place)

namespace ParseTree

/-- A node at an address has a rule of its own, nothing on the way to it, itself included, is a
comment or a hash-bang line, and it is not the argument list of a call. -/
structure IsShown (t : ParseTree) (addr : List ℕ) : Prop where
  named : ∃ n, t.nodeAt? addr = some n ∧ n.info.named = true
  notSkipped : ∀ a ∈ t.lineage addr, a.info.isSkipped = false
  notArguments : ¬t.IsArgumentList addr

/-- `origin` takes the places of a tagged tree to addresses of a parse tree, node for node. -/
structure IsOrigin (t : ParseTree) (tree : SyntaxNode) (origin : List (Slot × ℕ) → List ℕ) :
    Prop where
  /-- Every node has one origin, and every shown node is the origin of one. -/
  bijOn : Set.BijOn origin {place | (tree.nodeAt? place).isSome} {addr | t.IsShown addr}
  /-- A node has the type and the line of its origin. -/
  same : ∀ place n, tree.nodeAt? place = some n → ∃ m, t.nodeAt? (origin place) = some m ∧
    n.info.type = m.info.type ∧ n.info.line = some (m.info.row + 1)
  /-- A node stands in the slot of its parent to which its origin goes, right below the origin of
  the parent or right below the argument list there. -/
  below : ∀ place s i, (tree.nodeAt? (place ++ [(s, i)])).isSome → ∃ m way c,
    t.nodeAt? (origin place) = some m ∧ m.Fills s way c ∧
      origin (place ++ [(s, i)]) = origin place ++ way
  /-- The nodes of a slot stand in the order of their origins. -/
  ordered : ∀ place s i j, i < j → (tree.nodeAt? (place ++ [(s, j)])).isSome →
    origin (place ++ [(s, i)]) < origin (place ++ [(s, j)])

/-- Where the node at a place of the converted tree comes from. -/
def origin : ParseTree → List (Slot × ℕ) → List ℕ
  | _, [] => []
  | t, (s, i) :: place =>
    match (t.sources s)[i]? with
    | some (way, c) => way ++ origin c place
    | none => []

variable {t c c' : ParseTree} {s s' : Slot} {way way' addr addr' : List ℕ}

/-! ## One step -/

theorem Fills.nodeAt? (h : t.Fills s way c) : t.nodeAt? way = some c := by
  cases h with
  | member _ hc | body _ hc | child _ hc => exact nodeAt?_cons hc
  | argument _ hl _ hc => exact (nodeAt?_cons hl).trans (nodeAt?_cons hc)

theorem Fills.ne_nil (h : t.Fills s way c) : way ≠ [] := by
  cases h <;> exact List.cons_ne_nil _ _

theorem isArgumentsAmong_field {ts : List ParseTree} {l : ParseTree} {k : ℕ}
    (h : IsArgumentsAmong ts k) (hl : ts[k]? = some l) :
    l.info.field = some "arguments" ∧ l.info.type = "arguments" := by
  obtain ⟨⟨l', hl', hfield, htype⟩, -⟩ := h
  rw [hl'] at hl
  cases hl
  exact ⟨hfield, htype⟩

theorem isBodyAmong_field {ts : List ParseTree} {b : ParseTree} {j : ℕ}
    (h : IsBodyAmong ts j) (hb : ts[j]? = some b) : b.info.field = some "body" := by
  obtain ⟨⟨b', hb', hfield⟩, -⟩ := h
  rw [hb'] at hb
  cases hb
  exact hfield

/-- A child that goes to a slot of its own is no argument list of a call. -/
theorem Fills.not_isArgumentsAmong {j : ℕ} (h : t.Fills s [j] c) :
    ¬(t.info.type = "call_expression" ∧ IsArgumentsAmong t.children j) := by
  cases h with
  | member hseq => exact fun h => not_call_of_isSequence hseq h.1
  | body _ hc hbody =>
    rintro ⟨-, hargs⟩
    have hfield := isBodyAmong_field hbody hc
    rw [(isArgumentsAmong_field hargs hc).1] at hfield
    exact absurd hfield (by decide)
  | child _ _ _ _ hargs => exact hargs

/-- A node goes to one slot only. -/
theorem Fills.slot_eq (h : t.Fills s way c) (h' : t.Fills s' way c') : s = s' := by
  cases h with
  | member hseq =>
    cases h' with
    | member | body => rfl
    | child hnot => simp [hseq] at hnot
  | body hnot _ hbody =>
    cases h' with
    | member | body => rfl
    | child _ _ _ hnobody => exact absurd hbody hnobody
  | argument =>
    cases h' with
    | argument => rfl
  | child hnot _ _ hnobody =>
    cases h' with
    | member hseq => simp [hseq] at hnot
    | body _ _ hbody => exact absurd hbody hnobody
    | child => rfl

/-- The way to a source is one step down, or two through the argument list of a call. -/
theorem Fills.way_eq (h : t.Fills s way c) :
    (∃ j, way = [j]) ∨ ∃ k j, way = [k, j] ∧
      t.info.type = "call_expression" ∧ IsArgumentsAmong t.children k := by
  cases h with
  | member | body | child => exact Or.inl ⟨_, rfl⟩
  | argument hcall _ hargs => exact Or.inr ⟨_, _, rfl, hcall, hargs⟩

/-- **No way to a source begins another.** -/
theorem Fills.eq_of_append_eq (h : t.Fills s way c) (h' : t.Fills s' way' c')
    (heq : way ++ addr = way' ++ addr') : way = way' := by
  rcases h.way_eq with ⟨j, rfl⟩ | ⟨k, j, rfl, hargs⟩
  · rcases h'.way_eq with ⟨j', rfl⟩ | ⟨k', j', rfl, hargs'⟩
    · exact congrArg (fun i => [i]) (List.cons.inj heq).1
    · obtain rfl : j = k' := (List.cons.inj heq).1
      exact absurd hargs' h.not_isArgumentsAmong
  · rcases h'.way_eq with ⟨j', rfl⟩ | ⟨k', j', rfl, -⟩
    · obtain rfl : k = j' := (List.cons.inj heq).1
      exact absurd hargs h'.not_isArgumentsAmong
    · obtain ⟨hk, hrest⟩ := List.cons.inj heq
      rw [hk, (List.cons.inj hrest).1]

theorem Regular.child (ht : t.Regular) (hc : c ∈ t.children) : c.Regular := by
  obtain ⟨info, cs⟩ := t
  exact (regular_node.1 ht).2.2 c hc

theorem Fills.regular (ht : t.Regular) (h : t.Fills s way c) : c.Regular := by
  cases h with
  | member _ hc | body _ hc | child _ hc => exact ht.child (List.mem_of_getElem? hc)
  | argument _ hl _ hc =>
    exact (ht.child (List.mem_of_getElem? hl)).child (List.mem_of_getElem? hc)

theorem Fills.kept (ht : t.Regular) (h : t.Fills s way c) : c.info.isKept = true := by
  cases h with
  | member _ _ hkept | child _ _ hkept | argument _ _ _ _ hkept => exact hkept
  | body _ hc hbody =>
    exact ht.body [] t rfl c (List.mem_of_getElem? hc) (isBodyAmong_field hbody hc)

/-! ## Nodes that are reached -/

/-- The conversion reaches the node at an address: what is below the root on the way to it is kept,
and no argument list stands at its end. -/
structure Reached (t : ParseTree) (addr : List ℕ) : Prop where
  node : (t.nodeAt? addr).isSome
  kept : ∀ a ∈ (t.lineage addr).tail, a.info.isKept = true
  notArguments : ¬t.IsArgumentList addr

theorem reached_nil (t : ParseTree) : t.Reached [] :=
  ⟨rfl, by simp [lineage_nil], not_isArgumentList_nil t⟩

theorem reached_cons {j : ℕ} (hc : t.children[j]? = some c) :
    t.Reached (j :: addr) ↔ c.info.isKept = true ∧ c.Reached addr ∧
      (addr = [] → ¬(t.info.type = "call_expression" ∧ IsArgumentsAmong t.children j)) := by
  have hlineage : (t.lineage (j :: addr)).tail = c :: (c.lineage addr).tail := by
    rw [lineage_cons hc, List.tail_cons, ← lineage_eq_cons]
  have hargs : t.IsArgumentList (j :: addr) ↔ c.IsArgumentList addr ∨
      addr = [] ∧ t.info.type = "call_expression" ∧ IsArgumentsAmong t.children j := by
    cases addr with
    | nil => simp [isArgumentList_singleton, not_isArgumentList_nil]
    | cons k addr => simp [isArgumentList_cons_cons hc]
  constructor
  · rintro ⟨hnode, hkept, hnot⟩
    rw [nodeAt?_cons hc] at hnode
    rw [hlineage] at hkept
    rw [hargs, not_or] at hnot
    obtain ⟨hc', hkept⟩ := List.forall_mem_cons.1 hkept
    exact ⟨hc', ⟨hnode, hkept, hnot.1⟩, fun hnil h => hnot.2 ⟨hnil, h⟩⟩
  · rintro ⟨hc', ⟨hnode, hkept, hnot⟩, hlast⟩
    refine ⟨?_, ?_, ?_⟩
    · rwa [nodeAt?_cons hc]
    · rw [hlineage]
      exact List.forall_mem_cons.2 ⟨hc', hkept⟩
    · rw [hargs, not_or]
      exact ⟨hnot, fun h => hlast h.1 h.2⟩

/-- What is reached from a source is reached from the node whose slot it fills. -/
theorem Fills.reached_append (ht : t.Regular) (h : t.Fills s way c) :
    t.Reached (way ++ addr) ↔ c.Reached addr := by
  have hkept := h.kept ht
  -- a way of one step does not end at an argument list
  have hone : ∀ {j : ℕ}, t.children[j]? = some c → t.Fills s [j] c →
      (t.Reached ([j] ++ addr) ↔ c.Reached addr) := by
    intro j hc h
    rw [List.singleton_append, reached_cons hc]
    exact ⟨fun hr => hr.2.1, fun hr => ⟨hkept, hr, fun _ => h.not_isArgumentsAmong⟩⟩
  cases h with
  | member hseq hc hkept => exact hone hc (.member hseq hc hkept)
  | body hseq hc hbody => exact hone hc (.body hseq hc hbody)
  | child hseq hc hkept hbody hargs => exact hone hc (.child hseq hc hkept hbody hargs)
  | @argument k j l _ hcall hl hargs hc =>
    have htype := (isArgumentsAmong_field hargs hl).2
    have hnamed : l.info.named = true := by
      by_contra hnot
      have hleaf := (ht.child (List.mem_of_getElem? hl)).leaf [] l rfl (eq_false_of_ne_true hnot)
      simp [hleaf] at hc
    have hlist : l.info.isKept = true :=
      isKept_iff.2 ⟨hnamed, by simp [ParseNode.isSkipped, htype]⟩
    rw [List.cons_append, List.singleton_append, reached_cons hl, reached_cons hc]
    constructor
    · exact fun hr => hr.2.1.2.1
    · refine fun hr => ⟨hlist, ⟨hkept, hr, fun _ h => ?_⟩, fun h => absurd h (List.cons_ne_nil j _)⟩
      rw [htype] at h
      exact absurd h.1 (by decide)

/-- Below the root, every node that is reached is reached through a source. -/
theorem Reached.exists_fills {j : ℕ} (h : t.Reached (j :: addr)) :
    ∃ s way c addr', t.Fills s way c ∧ j :: addr = way ++ addr' := by
  obtain ⟨n, hn⟩ := Option.isSome_iff_exists.1 h.node
  obtain ⟨c, hc, -⟩ := exists_child hn
  obtain ⟨hkept, hbelow, hlast⟩ := (reached_cons hc).1 h
  by_cases hargs : t.info.type = "call_expression" ∧ IsArgumentsAmong t.children j
  · cases addr with
    | nil => exact absurd hargs (hlast rfl)
    | cons k addr =>
      obtain ⟨m, hm⟩ := Option.isSome_iff_exists.1 hbelow.node
      obtain ⟨d, hd, -⟩ := exists_child hm
      exact ⟨.arguments, [j, k], d, addr,
        .argument hargs.1 hc hargs.2 hd ((reached_cons hd).1 hbelow).1, rfl⟩
  · by_cases hseq : t.info.isSequence = true
    · exact ⟨.body, [j], c, addr, .member hseq hc hkept, rfl⟩
    · have hseq : t.info.isSequence = false := eq_false_of_ne_true hseq
      by_cases hbody : IsBodyAmong t.children j
      · exact ⟨.body, [j], c, addr, .body hseq hc hbody, rfl⟩
      · exact ⟨.children, [j], c, addr, .child hseq hc hkept hbody hargs, rfl⟩

/-- Below a root that is kept, the nodes that are shown are those that are reached. -/
theorem isShown_iff_reached (ht : t.Regular) (hroot : t.info.isKept = true) :
    t.IsShown addr ↔ t.Reached addr := by
  obtain ⟨hnamed, hskipped⟩ := isKept_iff.1 hroot
  constructor
  · rintro ⟨⟨n, hn, hnamed⟩, hnot, hargs⟩
    exact ⟨Option.isSome_iff_exists.2 ⟨n, hn⟩,
      (forall_kept_iff ht hskipped hn).2 (Or.inr ⟨hnamed, hnot⟩), hargs⟩
  · rintro ⟨hnode, hkept, hargs⟩
    obtain ⟨n, hn⟩ := Option.isSome_iff_exists.1 hnode
    rcases (forall_kept_iff ht hskipped hn).1 hkept with rfl | ⟨hnamed', hnot⟩
    · exact ⟨⟨t, rfl, hnamed⟩, by simpa [lineage_nil] using hskipped, hargs⟩
    · exact ⟨⟨n, hn, hnamed'⟩, hnot, hargs⟩

end ParseTree

/-! ## From places to addresses -/

namespace SyntaxNode

open ParseTree

variable {source : List UInt8} {p : Option String} {t : ParseTree} {s : Slot} {i : ℕ}
  {place place' : List (Slot × ℕ)} {n : SyntaxNode}

theorem nodeAt?_append (n : SyntaxNode) (place place' : List (Slot × ℕ)) :
    n.nodeAt? (place ++ place') = (n.nodeAt? place).bind (·.nodeAt? place') := by
  induction place generalizing n with
  | nil => rfl
  | cons e place ih =>
    simp only [List.cons_append, nodeAt?, ih]
    cases (n.slot e.1)[e.2]? <;> rfl

theorem nodeAt?_of_source {way : List ℕ} {c : ParseTree} (h : (t.sources s)[i]? = some (way, c)) :
    (convert source p t).nodeAt? ((s, i) :: place) =
      (convert source (some (parentType t.info.type s)) c).nodeAt? place := by
  rw [nodeAt?, slot_convert, List.getElem?_map, h]
  rfl

theorem origin_of_source {way : List ℕ} {c : ParseTree} (h : (t.sources s)[i]? = some (way, c)) :
    t.origin ((s, i) :: place) = way ++ c.origin place := by
  rw [origin, h]

/-- One step down to a place is a step to a source. -/
theorem exists_source (h : (convert source p t).nodeAt? ((s, i) :: place) = some n) :
    ∃ way c, (t.sources s)[i]? = some (way, c) ∧ t.Fills s way c ∧
      t.origin ((s, i) :: place) = way ++ c.origin place ∧
      (convert source (some (parentType t.info.type s)) c).nodeAt? place = some n := by
  cases hsource : (t.sources s)[i]? with
  | none =>
    rw [nodeAt?, slot_convert, List.getElem?_map, hsource] at h
    cases h
  | some e =>
    rw [nodeAt?_of_source hsource] at h
    exact ⟨e.1, e.2, rfl, mem_sources.1 (List.mem_of_getElem? hsource), origin_of_source hsource, h⟩

/-- **At a place stands the conversion of its origin**, which is reached. -/
theorem exists_convert_of_nodeAt? (ht : t.Regular)
    (h : (convert source p t).nodeAt? place = some n) :
    ∃ q c, t.nodeAt? (t.origin place) = some c ∧ n = convert source q c ∧
      t.Reached (t.origin place) := by
  induction place generalizing t p with
  | nil =>
    cases h
    exact ⟨p, t, rfl, rfl, reached_nil t⟩
  | cons e place ih =>
    obtain ⟨s, i⟩ := e
    obtain ⟨way, c, -, hfills, horigin, hbelow⟩ := exists_source h
    obtain ⟨q, d, hd, hn, hreached⟩ := ih (hfills.regular ht) hbelow
    rw [horigin]
    refine ⟨q, d, ?_, hn, (hfills.reached_append ht).2 hreached⟩
    rw [ParseTree.nodeAt?_append hfills.nodeAt?, hd]

/-- Below a place, origins go on from the origin of the place. -/
theorem origin_append {c : ParseTree} (h : (convert source p t).nodeAt? place = some n)
    (hc : t.nodeAt? (t.origin place) = some c) :
    t.origin (place ++ place') = t.origin place ++ c.origin place' := by
  induction place generalizing t p with
  | nil =>
    cases hc
    rfl
  | cons e place ih =>
    obtain ⟨s, i⟩ := e
    obtain ⟨way, d, hsource, hfills, horigin, hbelow⟩ := exists_source h
    rw [horigin, ParseTree.nodeAt?_append hfills.nodeAt?] at hc
    rw [horigin, List.cons_append, origin_of_source hsource, ih hbelow hc, List.append_assoc]

/-- **No two places have the same origin.** -/
theorem eq_of_origin_eq {n' : SyntaxNode} (h : (convert source p t).nodeAt? place = some n)
    (h' : (convert source p t).nodeAt? place' = some n')
    (heq : t.origin place = t.origin place') : place = place' := by
  induction place generalizing t p place' with
  | nil =>
    cases place' with
    | nil => rfl
    | cons e' place' =>
      obtain ⟨way, c, -, hfills, horigin, -⟩ := exists_source h'
      rw [horigin] at heq
      exact absurd (List.append_eq_nil_iff.1 heq.symm).1 hfills.ne_nil
  | cons e place ih =>
    obtain ⟨s, i⟩ := e
    obtain ⟨way, c, hsource, hfills, horigin, hbelow⟩ := exists_source h
    cases place' with
    | nil =>
      rw [horigin] at heq
      exact absurd (List.append_eq_nil_iff.1 heq).1 hfills.ne_nil
    | cons e' place' =>
      obtain ⟨s', i'⟩ := e'
      obtain ⟨way', c', hsource', hfills', horigin', hbelow'⟩ := exists_source h'
      rw [horigin, horigin'] at heq
      -- the first steps agree: in their ways, then in their slots, nodes and indices
      obtain rfl := hfills.eq_of_append_eq hfills' heq
      obtain rfl := hfills.slot_eq hfills'
      obtain rfl : c = c' := Option.some.inj (hfills.nodeAt?.symm.trans hfills'.nodeAt?)
      obtain rfl := (inOrder_sources t s).index_eq hsource hsource' rfl
      rw [ih hbelow hbelow' (List.append_cancel_left heq)]

/-- **What is reached is the origin of a place.** -/
theorem exists_origin_eq (source : List UInt8) (p : Option String) (ht : t.Regular)
    {addr : List ℕ} (h : t.Reached addr) :
    ∃ place n, (convert source p t).nodeAt? place = some n ∧ t.origin place = addr := by
  -- the way to a source may be two steps long, so the induction is on the length
  induction hlength : addr.length using Nat.strong_induction_on generalizing t p addr with
  | _ length ih =>
    cases addr with
    | nil => exact ⟨[], _, rfl, rfl⟩
    | cons j addr =>
      obtain ⟨s, way, c, addr', hfills, heq⟩ := h.exists_fills
      rw [heq] at h hlength ⊢
      have hshorter : addr'.length < length := by
        have hpos := List.length_pos_iff.2 hfills.ne_nil
        rw [List.length_append] at hlength
        omega
      obtain ⟨i, hsource⟩ := List.mem_iff_getElem?.1 (mem_sources.2 hfills)
      obtain ⟨place, n, hn, horigin⟩ := ih addr'.length hshorter
        (some (parentType t.info.type s)) (hfills.regular ht) ((hfills.reached_append ht).1 h) rfl
      exact ⟨(s, i) :: place, n, (nodeAt?_of_source hsource).trans hn,
        (origin_of_source hsource).trans (congrArg (way ++ ·) horigin)⟩

/-- A place in a slot is right below the place of the parent, and its origin below that of the
parent, by the way to a source. -/
theorem exists_source_below (ht : t.Regular)
    (h : ((convert source p t).nodeAt? (place ++ [(s, i)])).isSome) :
    ∃ m, t.nodeAt? (t.origin place) = some m ∧ i < (m.sources s).length ∧
      ∀ j way c, (m.sources s)[j]? = some (way, c) →
        t.origin (place ++ [(s, j)]) = t.origin place ++ way := by
  obtain ⟨n, hn⟩ := Option.isSome_iff_exists.1 h
  rw [nodeAt?_append] at hn
  obtain ⟨above, habove, hn⟩ := Option.bind_eq_some_iff.1 hn
  obtain ⟨q, m, hm, rfl, -⟩ := exists_convert_of_nodeAt? ht habove
  obtain ⟨_, _, hsource, -⟩ := exists_source hn
  refine ⟨m, hm, (List.getElem?_eq_some_iff.1 hsource).1, fun j way c hj => ?_⟩
  rw [origin_append habove hm, origin_of_source hj, origin, List.append_nil]

end SyntaxNode

namespace ParseTree

open SyntaxNode

/-- The origins of the places of a converted tree are as they should be. -/
theorem isOrigin_convert (source : List UInt8) (p : Option String) {t : ParseTree}
    (hroot : t.info.isKept = true) (ht : t.Regular) :
    t.IsOrigin (convert source p t) t.origin where
  bijOn := by
    refine ⟨fun place hplace => ?_, fun place hplace place' hplace' heq => ?_, fun addr haddr => ?_⟩
    · obtain ⟨n, hn⟩ := Option.isSome_iff_exists.1 hplace
      obtain ⟨q, c, -, -, hreached⟩ := exists_convert_of_nodeAt? ht hn
      exact (isShown_iff_reached ht hroot).2 hreached
    · obtain ⟨n, hn⟩ := Option.isSome_iff_exists.1 hplace
      obtain ⟨n', hn'⟩ := Option.isSome_iff_exists.1 hplace'
      exact eq_of_origin_eq hn hn' heq
    · obtain ⟨place, n, hn, horigin⟩ :=
        exists_origin_eq source p ht ((isShown_iff_reached ht hroot).1 haddr)
      exact ⟨place, Option.isSome_iff_exists.2 ⟨n, hn⟩, horigin⟩
  same := by
    intro place n hn
    obtain ⟨q, c, hc, rfl, -⟩ := exists_convert_of_nodeAt? ht hn
    exact ⟨c, hc, type_convert q c, line_convert q c⟩
  below := by
    intro place s i h
    obtain ⟨m, hm, hi, hsources⟩ := exists_source_below ht h
    have hsource := List.getElem?_eq_getElem hi
    exact ⟨m, _, _, hm, mem_sources.1 (List.getElem_mem hi), hsources i _ _ hsource⟩
  ordered := by
    intro place s i j hij h
    obtain ⟨m, hm, hj, hsources⟩ := exists_source_below ht h
    have hsource := List.getElem?_eq_getElem hj
    have hsource' := List.getElem?_eq_getElem (hij.trans hj)
    rw [hsources j _ _ hsource, hsources i _ _ hsource']
    exact List.append_left_lt ((inOrder_sources m s).lt_of_getElem? hij hsource' hsource)

/-- **The conversion neither loses nor duplicates a node.** Where a tree with a root that is kept
has a tagged tree, the nodes of the one are those of the other that are shown, one for one. Nodes
that belong together have the same type and the same line, and stand in the same order. -/
theorem isOrigin_build {refuses : ParseTree → Bool} {text : String} {t : ParseTree}
    {tree : SyntaxNode} (hbuild : SyntaxNode.build refuses text t = .ok tree)
    (hroot : t.info.isKept = true) (ht : t.Regular) : ∃ origin, t.IsOrigin tree origin := by
  rw [eq_convert_of_build hbuild]
  exact ⟨t.origin, isOrigin_convert _ none hroot ht⟩

/-- A call with an argument and a comment in its argument list: the argument is right below the
call, and the list and the comment are gone. -/
theorem isOrigin_build_call :
    let t : ParseTree :=
      .node ⟨"program", true, none, 0, 8, 0, false, false⟩
        [.node ⟨"expression_statement", true, none, 0, 8, 0, false, false⟩
          [.node ⟨"call_expression", true, none, 0, 8, 0, false, false⟩
            [.node ⟨"identifier", true, some "function", 0, 1, 0, false, false⟩ [],
              .node ⟨"arguments", true, some "arguments", 1, 8, 0, false, false⟩
                [.node ⟨"(", false, none, 1, 2, 0, false, false⟩ [],
                  .node ⟨"comment", true, none, 2, 5, 0, false, false⟩ [],
                  .node ⟨"identifier", true, none, 6, 7, 1, false, false⟩ [],
                  .node ⟨")", false, none, 7, 8, 1, false, false⟩ []]]]]
    t.info.isKept = true ∧ t.Regular ∧
      ∃ tree, SyntaxNode.build (isDeeperThan 300) "f(//y\nx)" t = .ok tree ∧
        ((tree.nodeAt? [(.body, 0), (.children, 0), (.arguments, 0)]).map (·.info.type)) =
          some "identifier" ∧
        ∃ origin, t.IsOrigin tree origin := by
  intro t
  have ht : t.Regular := by simp [t, regular_node, ParseNode.isKept, ParseNode.isSkipped]
  have hbuild : SyntaxNode.build (isDeeperThan 300) "f(//y\nx)" t =
      .ok (SyntaxNode.ofParseTree (Text.encodeUtf8 "f(//y\nx)".toList) t) := rfl
  exact ⟨rfl, ht, _, hbuild, rfl, isOrigin_build hbuild rfl ht⟩

/-- A root that is a hash-bang line is converted all the same, and no node of the parse tree is
there for it. -/
theorem isOrigin_build_hashBang :
    let t : ParseTree := .node ⟨"hash_bang_line", true, none, 0, 6, 0, false, false⟩ []
    t.info.named = true ∧ t.info.type ≠ "comment" ∧ t.Regular ∧
      ∃ tree, SyntaxNode.build (isDeeperThan 300) "#!node" t = .ok tree ∧
        ¬∃ origin, t.IsOrigin tree origin := by
  intro t
  have ht : t.Regular := by simp [t, regular_node]
  refine ⟨rfl, by decide, ht, _, rfl, fun ⟨origin, h⟩ => ?_⟩
  have hshown : t.IsShown (origin []) := h.bijOn.mapsTo rfl
  have hroot : t ∈ t.lineage (origin []) := by
    rw [lineage_eq_cons]
    exact List.mem_cons_self
  exact absurd (hshown.notSkipped t hroot) (by decide)

end ParseTree

end SmellScan
