import Mathlib.Data.List.Lex
import SmellScan.Proofs.SyntaxNode.FunctionOrder
import SmellScan.Proofs.SyntaxNode.Origin

/-!
# Where the order of direct children is that of the source

The direct children of a node come slot by slot: children, arguments, body. Within a slot they are
siblings of the parse tree and stand in the order of the source (`Fills.row_le`), so all depends on
the slots: the lines of direct children ascend if and only if nothing in an earlier slot starts
below what is in a later one (`childrenAscend_convert`), and pre-order is the order of the source if
and only if at no node anything in an earlier slot comes after what is in a later one
(`followsSource_convert`). The body of most nodes is their last child. That of a `do` statement is
not: its condition comes after the body and is met first (`build_sourceOrder_do`).
-/

namespace SmellScan

/-- The slots in the order in which direct children are taken from them. -/
def directSlots : List Slot :=
  [.children, .arguments, .body]

namespace ParseTree

/-- Everywhere in the tree, siblings start on ascending rows. -/
def RowsAscend (t : ParseTree) : Prop :=
  ∀ addr n, t.nodeAt? addr = some n → n.children.Pairwise fun a b => a.info.row ≤ b.info.row

/-- Nothing in an earlier slot starts below what is in a later one. -/
def SlotsAscend (t : ParseTree) : Prop :=
  directSlots.Pairwise fun s s' => ∀ way a way' b, t.Fills s way a → t.Fills s' way' b →
    a.info.row ≤ b.info.row

/-- Nothing in an earlier slot comes after what is in a later one. -/
def SlotsInOrder (t : ParseTree) : Prop :=
  directSlots.Pairwise fun s s' => ∀ way a way' b, t.Fills s way a → t.Fills s' way' b →
    way < way'

end ParseTree

namespace SyntaxNode

/-- The direct children of a node come with ascending lines. -/
def ChildrenAscend (n : SyntaxNode) : Prop :=
  n.directChildren.Pairwise fun a b => ∀ l ∈ a.info.line, ∀ l' ∈ b.info.line, l ≤ l'

/-- Pre-order of a tree goes through the parse tree in the order of the source. -/
def FollowsSource (t : ParseTree) (tree : SyntaxNode) : Prop :=
  ((places CodeBlock.slotOrder tree).map t.origin).Pairwise (· < ·)

end SyntaxNode

/-! ## Sources of one slot and of two -/

namespace ParseTree

variable {t a b : ParseTree} {s s' : Slot} {way way' addr addr' : List ℕ}

theorem rowsAscend_node {info : ParseNode} {cs : List ParseTree} :
    RowsAscend (.node info cs) ↔
      (cs.Pairwise fun a b => a.info.row ≤ b.info.row) ∧ ∀ c ∈ cs, c.RowsAscend := by
  constructor
  · intro h
    refine ⟨h [] _ rfl, fun c hc addr n hn => ?_⟩
    obtain ⟨i, hi⟩ := List.mem_iff_getElem?.1 hc
    exact h (i :: addr) n ((nodeAt?_cons hi).trans hn)
  · rintro ⟨hcs, hbelow⟩ (- | ⟨i, addr⟩) n hn
    · cases hn
      exact hcs
    · obtain ⟨c, hc, hn⟩ := exists_child hn
      exact hbelow c (List.mem_of_getElem? hc) addr n hn

theorem RowsAscend.below (h : t.RowsAscend) (ha : t.nodeAt? addr = some a) : a.RowsAscend :=
  fun addr' n hn => h (addr ++ addr') n ((nodeAt?_append ha).trans hn)

theorem IsArgumentsAmong.eq {ts : List ParseTree} {i j : ℕ} (hi : IsArgumentsAmong ts i)
    (hj : IsArgumentsAmong ts j) : i = j := by
  obtain ⟨⟨a, ha, hfield, -⟩, hbefore⟩ := hi
  obtain ⟨⟨b, hb, hfield', -⟩, hbefore'⟩ := hj
  rcases Nat.lt_trichotomy i j with hij | rfl | hij
  · exact absurd hfield (hbefore' i hij a ha)
  · rfl
  · exact absurd hfield' (hbefore j hij b hb)

theorem append_lt_append_left : way ++ addr < way ++ addr' ↔ addr < addr' := by
  induction way with
  | nil => rfl
  | cons i way ih => simp [ih]

/-- The sources of one slot are siblings. -/
theorem Fills.siblings (h : t.Fills s way a) (h' : t.Fills s way' b) :
    ∃ above p i j, t.nodeAt? above = some p ∧ way = above ++ [i] ∧ way' = above ++ [j] ∧
      p.children[i]? = some a ∧ p.children[j]? = some b := by
  cases h with
  | member _ ha | body _ ha =>
    cases h' with
    | member _ hb | body _ hb => exact ⟨[], t, _, _, rfl, rfl, rfl, ha, hb⟩
  | argument _ hl hargs ha =>
    cases h' with
    | argument _ hl' hargs' hb =>
      obtain rfl := hargs.eq hargs'
      cases hl.symm.trans hl'
      -- a call has one argument list, so both are in it
      exact ⟨[_], _, _, _, nodeAt?_cons hl, rfl, rfl, ha, hb⟩
  | child _ ha =>
    cases h' with
    | child _ hb => exact ⟨[], t, _, _, rfl, rfl, rfl, ha, hb⟩

/-- **Within a slot rows ascend.** -/
theorem Fills.row_le (ht : t.RowsAscend) (h : t.Fills s way a) (h' : t.Fills s way' b)
    (hlt : way < way') : a.info.row ≤ b.info.row := by
  obtain ⟨above, p, i, j, hp, rfl, rfl, ha, hb⟩ := h.siblings h'
  have hij : i < j := by simpa [append_lt_append_left, List.cons_lt_cons_iff] using hlt
  obtain ⟨hi, rfl⟩ := List.getElem?_eq_some_iff.1 ha
  obtain ⟨hj, rfl⟩ := List.getElem?_eq_some_iff.1 hb
  exact List.pairwise_iff_getElem.1 (ht above p hp) i j hi hj hij

theorem rows_sources (ht : t.RowsAscend) (s : Slot) :
    (t.sources s).Pairwise fun e e' => e.2.info.row ≤ e'.2.info.row := by
  refine (inOrder_sources t s).imp_of_mem fun {e e'} he he' hlt => ?_
  exact Fills.row_le ht (mem_sources.1 he) (mem_sources.1 he') hlt

/-- Addresses that part stay in order, whatever comes below them. -/
theorem append_lt_append (h : way < way') (hpart : ∀ addr addr', way ++ addr ≠ way' ++ addr') :
    way ++ addr < way' ++ addr' := by
  induction way generalizing way' with
  | nil => exact absurd (List.append_nil way').symm (hpart way' [])
  | cons i way ih =>
    cases way' with
    | nil => cases h
    | cons j way' =>
      rw [List.cons_append, List.cons_append, List.cons_lt_cons_iff]
      rcases List.cons_lt_cons_iff.1 h with hij | ⟨rfl, hlt⟩
      · exact Or.inl hij
      · refine Or.inr ⟨rfl, ih hlt fun addr addr' heq => hpart addr addr' ?_⟩
        rw [List.cons_append, heq, List.cons_append]

/-- **What is below two sources is in their order.** -/
theorem Fills.append_lt_append_iff (h : t.Fills s way a) (h' : t.Fills s' way' b)
    (hne : way ≠ way') : way ++ addr < way' ++ addr' ↔ way < way' := by
  have hpart : ∀ addr addr', way ++ addr ≠ way' ++ addr' :=
    fun addr addr' heq => hne (h.eq_of_append_eq h' heq)
  refine ⟨fun hlt => ?_, fun hlt => append_lt_append hlt hpart⟩
  rcases lt_trichotomy way way' with hway | hway | hway
  · exact hway
  · exact absurd hway hne
  · have hlt' : way' ++ addr' < way ++ addr :=
      append_lt_append hway fun addr' addr heq => hpart addr addr' heq.symm
    exact absurd (List.lt_trans hlt hlt') (List.lt_irrefl _)

end ParseTree

/-! ## Lines of direct children -/

namespace SyntaxNode

open ParseTree

variable {source : List UInt8} {p : Option String} {t : ParseTree} {n : SyntaxNode}
  {place : List (Slot × ℕ)}

theorem directChildren_eq (n : SyntaxNode) : n.directChildren = directSlots.flatMap n.slot := by
  simp [directChildren, directSlots, slot]

/-- **The lines of direct children ascend if and only if the slots do.** -/
theorem childrenAscend_convert (ht : t.RowsAscend) :
    (convert source p t).ChildrenAscend ↔ t.SlotsAscend := by
  have hline : ∀ (q q' : Option String) (a b : ParseTree),
      (∀ l ∈ (convert source q a).info.line, ∀ l' ∈ (convert source q' b).info.line, l ≤ l') ↔
        a.info.row ≤ b.info.row := by
    intro q q' a b
    simp [line_convert, ParseNode.line]
  rw [ChildrenAscend, directChildren_eq, List.pairwise_flatMap, SlotsAscend]
  have hwithin : ∀ s ∈ directSlots, ((convert source p t).slot s).Pairwise fun a b =>
      ∀ l ∈ a.info.line, ∀ l' ∈ b.info.line, l ≤ l' := by
    intro s _
    rw [slot_convert, List.pairwise_map]
    exact (rows_sources ht s).imp fun hrow => (hline _ _ _ _).2 hrow
  rw [and_iff_right hwithin]
  refine iff_of_eq (congrArg (List.Pairwise · directSlots) (funext₂ fun s s' => propext ?_))
  simp only [slot_convert, List.forall_mem_map, hline, Prod.forall, mem_sources]
  exact ⟨fun h way a way' b ha hb => h way a ha way' b hb,
    fun h way a ha way' b hb => h way a way' b ha hb⟩

/-- At a place stands the conversion of its origin. -/
theorem exists_convert_at (h : (convert source p t).nodeAt? place = some n) :
    ∃ q c, t.nodeAt? (t.origin place) = some c ∧ n = convert source q c := by
  induction place generalizing t p with
  | nil =>
    cases h
    exact ⟨p, t, rfl, rfl⟩
  | cons e place ih =>
    obtain ⟨way, c, -, hfills, horigin, hbelow⟩ := exists_source h
    obtain ⟨q, d, hd, hn⟩ := ih hbelow
    exact ⟨q, d, by rw [horigin, ParseTree.nodeAt?_append hfills.nodeAt?, hd], hn⟩

/-! ## The order of origins -/

/-- The origins of the nodes of a converted tree, in pre-order. -/
def origins (source : List UInt8) (p : Option String) (t : ParseTree) : List (List ℕ) :=
  (places CodeBlock.slotOrder (convert source p t)).map t.origin

theorem nil_mem_origins (source : List UInt8) (p : Option String) (t : ParseTree) :
    [] ∈ origins source p t := by
  rw [origins, places_eq]
  exact List.mem_map_of_mem List.mem_cons_self

/-- The origins of a converted tree from a source on. -/
def originsBelow (source : List UInt8) (t : ParseTree) (s : Slot) (e : List ℕ × ParseTree) :
    List (List ℕ) :=
  (origins source (some (parentType t.info.type s)) e.2).map (e.1 ++ ·)

/-- Below the root, origins go on from the sources. -/
theorem origins_eq (source : List UInt8) (p : Option String) (t : ParseTree) :
    origins source p t =
      [] :: directSlots.flatMap fun s => (t.sources s).flatMap (originsBelow source t s) := by
  rw [origins, places_eq, List.map_cons, List.map_flatMap]
  refine congrArg ([] :: ·) (List.flatMap_congr fun s _ => ?_)
  rw [slot_convert, List.zipIdx_map, List.flatMap_map, List.map_flatMap]
  conv_rhs => rw [← List.zipIdx_map_fst 0 (t.sources s), List.flatMap_map]
  refine List.flatMap_congr fun e he => ?_
  have hsource : (t.sources s)[e.2]? = some e.1 := List.mem_zipIdx_iff_getElem?.1 he
  rw [originsBelow, origins, List.map_map, List.map_map]
  exact List.map_congr_left fun place _ => origin_of_source hsource

theorem pairwise_originsBelow {s : Slot} {e : List ℕ × ParseTree} :
    (originsBelow source t s e).Pairwise (· < ·) ↔
      (origins source (some (parentType t.info.type s)) e.2).Pairwise (· < ·) := by
  rw [originsBelow, List.pairwise_map]
  simp only [append_lt_append_left]

/-- From two sources on, origins are in order if and only if the sources are. -/
theorem originsBelow_lt {s s' : Slot} {e e' : List ℕ × ParseTree} (he : e ∈ t.sources s)
    (he' : e' ∈ t.sources s') (hne : e.1 ≠ e'.1) :
    (∀ x ∈ originsBelow source t s e, ∀ y ∈ originsBelow source t s' e', x < y) ↔ e.1 < e'.1 := by
  have hiff : ∀ x y, e.1 ++ x < e'.1 ++ y ↔ e.1 < e'.1 := fun x y =>
    (mem_sources.1 he).append_lt_append_iff (mem_sources.1 he') hne
  simp only [originsBelow, List.forall_mem_map, hiff]
  exact ⟨fun h => h [] (nil_mem_origins _ _ _) [] (nil_mem_origins _ _ _), fun h _ _ _ _ => h⟩

/-- The origins in a slot are in order if and only if they are so from each source on. -/
theorem pairwise_slot {s : Slot} :
    ((t.sources s).flatMap (originsBelow source t s)).Pairwise (· < ·) ↔ ∀ e ∈ t.sources s,
      (origins source (some (parentType t.info.type s)) e.2).Pairwise (· < ·) := by
  have hwithin : (t.sources s).Pairwise fun e e' =>
      ∀ x ∈ originsBelow source t s e, ∀ y ∈ originsBelow source t s e', x < y := by
    refine (inOrder_sources t s).imp_of_mem fun {e e'} he he' hlt => ?_
    exact (originsBelow_lt he he' (ne_of_lt hlt)).2 hlt
  rw [List.pairwise_flatMap, and_iff_left hwithin]
  exact forall₂_congr fun e _ => pairwise_originsBelow

/-- The origins in two slots are in order if and only if the sources of these are. -/
theorem forall_slots_lt {s s' : Slot} (hne : s ≠ s') :
    (∀ x ∈ (t.sources s).flatMap (originsBelow source t s),
      ∀ y ∈ (t.sources s').flatMap (originsBelow source t s'), x < y) ↔
        ∀ way a way' b, t.Fills s way a → t.Fills s' way' b → way < way' := by
  have hways : ∀ {e e'}, e ∈ t.sources s → e' ∈ t.sources s' → e.1 ≠ e'.1 := by
    intro e e' he he' heq
    have hfills : t.Fills s' e.1 e'.2 := by
      rw [heq]
      exact mem_sources.1 he'
    exact hne ((mem_sources.1 he).slot_eq hfills)
  simp only [List.mem_flatMap]
  constructor
  · intro h way a way' b ha hb
    have hmem := mem_sources.2 ha
    have hmem' := mem_sources.2 hb
    have hbelow : ∀ x ∈ originsBelow source t s (way, a),
        ∀ y ∈ originsBelow source t s' (way', b), x < y :=
      fun x hx y hy => h x ⟨_, hmem, hx⟩ y ⟨_, hmem', hy⟩
    exact (originsBelow_lt hmem hmem' (hways hmem hmem')).1 hbelow
  · rintro h x ⟨e, he, hx⟩ y ⟨e', he', hy⟩
    have hlt := h _ _ _ _ (mem_sources.1 he) (mem_sources.1 he')
    exact (originsBelow_lt he he' (hways he he')).2 hlt x hx y hy

/-- One level of the order of origins: that of the slots, and that of the origins from each source
on. -/
theorem pairwise_origins :
    (origins source p t).Pairwise (· < ·) ↔ t.SlotsInOrder ∧ ∀ s, ∀ e ∈ t.sources s,
      (origins source (some (parentType t.info.type s)) e.2).Pairwise (· < ·) := by
  have hroot : ∀ addr ∈ directSlots.flatMap fun s =>
      (t.sources s).flatMap (originsBelow source t s), [] < addr := by
    intro addr haddr
    obtain ⟨s, -, haddr⟩ := List.mem_flatMap.1 haddr
    obtain ⟨e, he, haddr⟩ := List.mem_flatMap.1 haddr
    obtain ⟨x, -, rfl⟩ := List.mem_map.1 haddr
    obtain ⟨i, way, hway⟩ := List.exists_cons_of_ne_nil (mem_sources.1 he).ne_nil
    rw [hway, List.cons_append]
    exact List.nil_lt_cons i _
  have hslots : (directSlots.Pairwise fun s s' =>
      ∀ x ∈ (t.sources s).flatMap (originsBelow source t s),
        ∀ y ∈ (t.sources s').flatMap (originsBelow source t s'), x < y) ↔ t.SlotsInOrder := by
    have hnodup : directSlots.Pairwise (· ≠ ·) := by decide
    exact ⟨fun h => (hnodup.and h).imp fun h => (forall_slots_lt h.1).1 h.2,
      fun h => (hnodup.and h).imp fun h => (forall_slots_lt h.1).2 h.2⟩
  have hall : ∀ s, s ∈ directSlots := fun s => by cases s <;> decide
  rw [origins_eq, List.pairwise_cons, and_iff_right hroot, List.pairwise_flatMap, hslots, and_comm]
  simp only [pairwise_slot, hall, true_imp_iff]

/-- **Pre-order is the order of the source if and only if the slots are in order at every node.** -/
theorem followsSource_convert :
    FollowsSource t (convert source p t) ↔ ∀ place c, ((convert source p t).nodeAt? place).isSome →
      t.nodeAt? (t.origin place) = some c → c.SlotsInOrder := by
  -- on the converted tree, since an argument is two steps down in the parse tree
  induction hn : convert source p t using inductionOn generalizing t p with
  | node n ih =>
    subst hn
    have hmem : ∀ {s : Slot} {e : List ℕ × ParseTree}, e ∈ t.sources s →
        convert source (some (parentType t.info.type s)) e.2 ∈ (convert source p t).slot s := by
      intro s e he
      rw [slot_convert]
      exact List.mem_map_of_mem he
    refine Iff.trans pairwise_origins ⟨?_, fun h => ⟨h [] t rfl rfl, fun s e he => ?_⟩⟩
    · rintro ⟨hslots, hbelow⟩ (- | ⟨⟨s, i⟩, place⟩) c hsome hc
      · cases hc
        exact hslots
      · obtain ⟨n, hn⟩ := Option.isSome_iff_exists.1 hsome
        obtain ⟨way, d, hsource, hfills, horigin, hn⟩ := exists_source hn
        have hd := List.mem_of_getElem? hsource
        rw [horigin, ParseTree.nodeAt?_append hfills.nodeAt?] at hc
        exact (ih s _ (hmem hd) rfl).1 (hbelow s _ hd) place c
          (Option.isSome_iff_exists.2 ⟨n, hn⟩) hc
    · refine (ih s _ (hmem he) rfl).2 fun place c hsome hc => ?_
      obtain ⟨i, hsource⟩ := List.mem_iff_getElem?.1 he
      have hfills := mem_sources.1 he
      refine h ((s, i) :: place) c ?_ ?_
      · rwa [nodeAt?_of_source hsource]
      · rwa [origin_of_source hsource, ParseTree.nodeAt?_append hfills.nodeAt?]

/-! ## Built trees -/

/-- **When direct children come in the order of the source.** Where siblings start on ascending
rows, the direct children of a node of a built tree come with ascending lines if and only if at its
origin nothing in an earlier slot starts below what is in a later one; and the pre-order by which
blocks are collected and functions reported is the order of the source if and only if at the origin
of every node nothing in an earlier slot comes after what is in a later one. -/
theorem build_sourceOrder {refuses : ParseTree → Bool} {text : String} {t : ParseTree}
    {tree : SyntaxNode} (hbuild : build refuses text t = .ok tree) (hrows : t.RowsAscend) :
    (∀ place n, tree.nodeAt? place = some n → ∃ c, t.nodeAt? (t.origin place) = some c ∧
      n.info.type = c.info.type ∧ n.info.line = some c.info.line ∧
        (n.ChildrenAscend ↔ c.SlotsAscend)) ∧
      (places CodeBlock.slotOrder tree).map tree.nodeAt? = tree.preorder.map some ∧
      (FollowsSource t tree ↔ ∀ place c, (tree.nodeAt? place).isSome →
        t.nodeAt? (t.origin place) = some c → c.SlotsInOrder) := by
  rw [eq_convert_of_build hbuild]
  refine ⟨fun place n hn => ?_, ?_, followsSource_convert⟩
  · obtain ⟨q, c, hc, rfl⟩ := exists_convert_at hn
    exact ⟨c, hc, type_convert q c, line_convert q c, childrenAscend_convert (hrows.below hc)⟩
  · rw [map_nodeAt?_places CodeBlock.slotOrder [], ← CodeBlock.map_node_tour [], List.map_map]
    rfl

/-- A `while` statement, with a function in its condition and one in its body, which comes last. -/
theorem build_sourceOrder_while :
    let text := "while (a => a)\nb => b"
    let t : ParseTree :=
      .node ⟨"program", true, none, 0, 21, 0, false, false⟩
        [.node ⟨"while_statement", true, none, 0, 21, 0, false, false⟩
          [.node ⟨"parenthesized_expression", true, some "condition", 6, 14, 0, false, false⟩
              [.node ⟨"arrow_function", true, none, 7, 13, 0, false, false⟩
                [.node ⟨"identifier", true, some "body", 12, 13, 0, false, false⟩ []]],
            .node ⟨"expression_statement", true, some "body", 15, 21, 1, false, false⟩
              [.node ⟨"arrow_function", true, none, 15, 21, 1, false, false⟩
                [.node ⟨"identifier", true, some "body", 20, 21, 1, false, false⟩ []]]]]
    t.RowsAscend ∧ ∃ tree, build (ParseTree.isDeeperThan 300) text t = .ok tree ∧
      FollowsSource t tree ∧
      ∀ place c, (tree.nodeAt? place).isSome → t.nodeAt? (t.origin place) = some c →
        c.SlotsInOrder := by
  intro text t
  have hrows : t.RowsAscend := by simp [t, rowsAscend_node]
  have hbuild : build (ParseTree.isDeeperThan 300) text t =
      .ok (ofParseTree (Text.encodeUtf8 text.toList) t) := rfl
  have hfollows : FollowsSource t (ofParseTree (Text.encodeUtf8 text.toList) t) := by
    rw [FollowsSource]
    decide
  exact ⟨hrows, _, hbuild, hfollows, (build_sourceOrder hbuild hrows).2.2.1 hfollows⟩

/-- A `do` statement, with a function in its body and one in the condition below: the condition is
the first direct child, and its function is met first. -/
theorem build_sourceOrder_do :
    let text := "do a => a\nwhile (b => b)"
    let t : ParseTree :=
      .node ⟨"program", true, none, 0, 24, 0, false, false⟩
        [.node ⟨"do_statement", true, none, 0, 24, 0, false, false⟩
          [.node ⟨"expression_statement", true, some "body", 3, 9, 0, false, false⟩
              [.node ⟨"arrow_function", true, none, 3, 9, 0, false, false⟩
                [.node ⟨"identifier", true, some "body", 8, 9, 0, false, false⟩ []]],
            .node ⟨"parenthesized_expression", true, some "condition", 16, 24, 1, false, false⟩
              [.node ⟨"arrow_function", true, none, 17, 23, 1, false, false⟩
                [.node ⟨"identifier", true, some "body", 22, 23, 1, false, false⟩ []]]]]
    t.RowsAscend ∧ ∃ tree, build (ParseTree.isDeeperThan 300) text t = .ok tree ∧
      (∃ n : SyntaxNode, n.IsIn tree ∧ n.info.type = "do_statement" ∧
        n.directChildren.map (·.info.line) = [some 2, some 1] ∧ ¬n.ChildrenAscend) ∧
      ¬FollowsSource t tree ∧ tree.functions.map (·.info.line) = [some 2, some 1] := by
  intro text t
  have hrows : t.RowsAscend := by simp [t, rowsAscend_node]
  have hbuild : build (ParseTree.isDeeperThan 300) text t =
      .ok (ofParseTree (Text.encodeUtf8 text.toList) t) := rfl
  refine ⟨hrows, _, hbuild, ⟨_, ⟨[(.body, 0)], rfl⟩, rfl, rfl, ?_⟩, ?_, ?_⟩
  · intro h
    have hle := (List.pairwise_cons.1 h).1 _ List.mem_cons_self 2 rfl 1 rfl
    exact absurd hle (by decide)
  · rw [FollowsSource]
    decide
  · rw [functions_eq]
    decide

end SyntaxNode

end SmellScan
