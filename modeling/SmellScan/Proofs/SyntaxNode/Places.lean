import Mathlib.Data.List.Nodup
import Mathlib.Data.List.Sigma
import SmellScan.Proofs.Smell.BodyLines
import SmellScan.Proofs.SyntaxNode.Tour

/-!
# The places of a tour

Equal nodes may stand at several places of a tree, so a list of nodes does not show which of them
were met. Here a tour lists the places that it comes to (`places`), in the order in which it lists
the nodes there (`map_nodeAt?_places`). A slot that a tour takes once is never entered twice, so no
place comes twice (`nodup_places`); and where the slots that it leaves out are empty, every place
comes (`mem_places`). Such a tour lists each node of the tree once (`listsOnce_tour`).
-/

namespace SmellScan.SyntaxNode

theorem size_le_forestSize {m : SyntaxNode} {ns : List SyntaxNode} (h : m ∈ ns) :
    m.size ≤ forestSize ns := by
  induction ns with
  | nil => cases h
  | cons n ns ih =>
    rw [forestSize]
    rcases List.mem_cons.1 h with rfl | h
    · omega
    · have := ih h
      omega

/-- Induction over a tree, with the claim for every node in a slot. -/
@[elab_as_elim] theorem inductionOn {motive : SyntaxNode → Prop}
    (node : ∀ n, (∀ s, ∀ m ∈ n.slot s, motive m) → motive n) (n : SyntaxNode) : motive n := by
  induction hsize : n.size using Nat.strong_induction_on generalizing n with
  | _ size ih =>
    refine node n fun s m hm => ih m.size ?_ m rfl
    have hle := size_le_forestSize (mem_directChildren.2 ⟨s, hm⟩)
    have hsum := forestSize_directChildren n
    omega

mutual

/-- The places of a tree in pre-order, where `order` gives for each kind of node the slots that are
taken and their order. -/
def places (order : NodeKind → List Slot) : SyntaxNode → List (List (Slot × ℕ))
  | .mk info body arguments children =>
    [] :: (order info.kind).flatMap fun s =>
      match s with
      | .body => placesBody order body
      | .arguments => placesAll order .arguments 0 arguments
      | .children => placesAll order .children 0 children

/-- The places of a body. -/
def placesBody (order : NodeKind → List Slot) : Body SyntaxNode → List (List (Slot × ℕ))
  | .none => []
  | .one n => (places order n).map ((.body, 0) :: ·)
  | .seq ns => placesAll order .body 0 ns

/-- The places of the trees that stand in a slot from an index on. -/
def placesAll (order : NodeKind → List Slot) (s : Slot) (i : ℕ) :
    List SyntaxNode → List (List (Slot × ℕ))
  | [] => []
  | n :: ns => (places order n).map ((s, i) :: ·) ++ placesAll order s (i + 1) ns

end

variable {order : NodeKind → List Slot} {n m : SyntaxNode} {place : List (Slot × ℕ)}

theorem placesAll_eq (order : NodeKind → List Slot) (s : Slot) (i : ℕ) (ns : List SyntaxNode) :
    placesAll order s i ns =
      (ns.zipIdx i).flatMap fun e => (places order e.1).map ((s, e.2) :: ·) := by
  induction ns generalizing i with
  | nil => rfl
  | cons n ns ih => rw [placesAll, ih, List.zipIdx_cons, List.flatMap_cons]

/-- The places of a tree are its root and, in the slots that are taken, those of the nodes there. -/
theorem places_eq (order : NodeKind → List Slot) (n : SyntaxNode) :
    places order n = [] :: (order n.info.kind).flatMap fun s =>
      (n.slot s).zipIdx.flatMap fun e => (places order e.1).map ((s, e.2) :: ·) := by
  obtain ⟨info, body, arguments, children⟩ := n
  rw [places]
  refine congrArg ([] :: ·) (List.flatMap_congr fun s _ => ?_)
  cases s with
  | body =>
    cases body with
    | none => rfl
    | one n => exact (List.append_nil _).symm
    | seq ns => exact placesAll_eq order .body 0 ns
  | arguments => exact placesAll_eq order .arguments 0 arguments
  | children => exact placesAll_eq order .children 0 children

theorem tourAll_eq (order : NodeKind → List Slot) (above ns : List SyntaxNode) :
    tourAll order above ns = ns.flatMap (tour order above) := by
  induction ns with
  | nil => rfl
  | cons n ns ih => rw [tourAll, ih, List.flatMap_cons]

theorem tour_eq (order : NodeKind → List Slot) (above : List SyntaxNode) (n : SyntaxNode) :
    tour order above n = ⟨above, n⟩ :: (order n.info.kind).flatMap fun s =>
      (n.slot s).flatMap (tour order (above ++ [n])) := by
  obtain ⟨info, body, arguments, children⟩ := n
  rw [tour]
  refine congrArg (_ :: ·) (List.flatMap_congr fun s _ => ?_)
  cases s with
  | body =>
    cases body with
    | none => rfl
    | one n => exact (List.append_nil _).symm
    | seq ns => exact tourAll_eq order _ ns
  | arguments => exact tourAll_eq order _ arguments
  | children => exact tourAll_eq order _ children

/-! ## The nodes at the places -/

theorem nodeAt?_cons {s : Slot} {i : ℕ} (h : (n.slot s)[i]? = some m) :
    n.nodeAt? ((s, i) :: place) = m.nodeAt? place := by
  rw [nodeAt?, h, Option.bind_some]

/-- **At the places of a tour stand the nodes that it meets.** -/
theorem map_nodeAt?_places (order : NodeKind → List Slot) (above : List SyntaxNode)
    (n : SyntaxNode) :
    (places order n).map n.nodeAt? = (tour order above n).map fun v => some v.node := by
  induction n using inductionOn generalizing above with
  | node n ih =>
    have hslot : ∀ s, ((n.slot s).zipIdx.flatMap fun e =>
        (places order e.1).map ((s, e.2) :: ·)).map n.nodeAt? =
          ((n.slot s).flatMap (tour order (above ++ [n]))).map fun v => some v.node := by
      intro s
      have hnode : ∀ e ∈ (n.slot s).zipIdx, ((places order e.1).map ((s, e.2) :: ·)).map n.nodeAt? =
          (tour order (above ++ [n]) e.1).map fun v => some v.node := by
        intro e he
        have hm : (n.slot s)[e.2]? = some e.1 := List.mem_zipIdx_iff_getElem?.1 he
        rw [← ih s e.1 (List.mem_of_getElem? hm), List.map_map]
        exact List.map_congr_left fun place _ => nodeAt?_cons hm
      rw [List.map_flatMap, List.flatMap_congr hnode, List.map_flatMap]
      conv_rhs => rw [← List.zipIdx_map_fst 0 (n.slot s), List.flatMap_map]
    rw [places_eq, tour_eq, List.map_cons, List.map_cons, List.map_flatMap, List.map_flatMap]
    exact congrArg (some n :: ·) (List.flatMap_congr fun s _ => hslot s)

/-! ## Each place once -/

theorem cons_mem_places {s : Slot} {i : ℕ} :
    (s, i) :: place ∈ places order n ↔
      s ∈ order n.info.kind ∧ ∃ m, (n.slot s)[i]? = some m ∧ place ∈ places order m := by
  rw [places_eq]
  simp only [List.mem_cons, reduceCtorEq, false_or, List.mem_flatMap, List.mem_map, Prod.exists,
    List.mem_zipIdx_iff_getElem?, List.cons.injEq, Prod.mk.injEq]
  constructor
  · rintro ⟨s, hs, m, i, hm, place, hplace, ⟨rfl, rfl⟩, rfl⟩
    exact ⟨hs, m, hm, hplace⟩
  · rintro ⟨hs, m, hm, hplace⟩
    exact ⟨s, hs, m, i, hm, place, hplace, ⟨rfl, rfl⟩, rfl⟩

/-- Nothing in the tree stands in a slot that is left out. -/
def LeavesOutNothing (order : NodeKind → List Slot) (root : SyntaxNode) : Prop :=
  ∀ n : SyntaxNode, n.IsIn root → ∀ s, s ∉ order n.info.kind → n.slot s = []

theorem LeavesOutNothing.of_mem (h : LeavesOutNothing order n) {s : Slot} (hm : m ∈ n.slot s) :
    LeavesOutNothing order m :=
  fun k hk => h k (isIn_iff.2 (Or.inr ⟨m, mem_directChildren.2 ⟨s, hm⟩, hk⟩))

/-- **Every place is come to**, where no slot is left out that holds a node. -/
theorem mem_places (h : LeavesOutNothing order n) :
    place ∈ places order n ↔ (n.nodeAt? place).isSome = true := by
  induction place generalizing n with
  | nil =>
    rw [places_eq]
    exact ⟨fun _ => rfl, fun _ => List.mem_cons_self⟩
  | cons e place ih =>
    obtain ⟨s, i⟩ := e
    rw [cons_mem_places]
    constructor
    · rintro ⟨-, m, hm, hplace⟩
      rw [nodeAt?_cons hm]
      exact (ih (h.of_mem (List.mem_of_getElem? hm))).1 hplace
    · intro hsome
      obtain ⟨k, hk⟩ := Option.isSome_iff_exists.1 hsome
      obtain ⟨m, hm, hk⟩ := Option.bind_eq_some_iff.1 hk
      have hmem := List.mem_of_getElem? hm
      refine ⟨?_, m, hm, (ih (h.of_mem hmem)).2 (Option.isSome_iff_exists.2 ⟨k, hk⟩)⟩
      by_contra hs
      rw [h n (isIn_iff.2 (Or.inl rfl)) s hs] at hmem
      cases hmem

/-- **No place is come to twice**, where no slot is taken twice. -/
theorem nodup_places (horder : ∀ kind, (order kind).Nodup) (n : SyntaxNode) :
    (places order n).Nodup := by
  induction n using inductionOn with
  | node n ih =>
    rw [places_eq, List.nodup_cons]
    refine ⟨by simp, List.nodup_flatMap.2 ⟨fun s _ => List.nodup_flatMap.2 ⟨?_, ?_⟩, ?_⟩⟩
    · intro e he
      have hm : (n.slot s)[e.2]? = some e.1 := List.mem_zipIdx_iff_getElem?.1 he
      exact (ih s e.1 (List.mem_of_getElem? hm)).map List.cons_injective
    · -- nodes of one slot differ in their index
      refine (List.pairwise_map.1 (List.nodup_zipIdx_map_snd (n.slot s))).imp fun hne => ?_
      rintro place hplace hplace'
      obtain ⟨_, -, rfl⟩ := List.mem_map.1 hplace
      obtain ⟨_, -, heq⟩ := List.mem_map.1 hplace'
      exact hne (congrArg Prod.snd (List.cons.inj heq).1).symm
    · refine (horder n.info.kind).imp fun hne => ?_
      rintro place hplace hplace'
      obtain ⟨e, -, hplace⟩ := List.mem_flatMap.1 hplace
      obtain ⟨e', -, hplace'⟩ := List.mem_flatMap.1 hplace'
      obtain ⟨_, -, rfl⟩ := List.mem_map.1 hplace
      obtain ⟨_, -, heq⟩ := List.mem_map.1 hplace'
      exact hne (congrArg Prod.fst (List.cons.inj heq).1).symm

/-! ## Lists of nodes -/

/-- `ns` lists the nodes of a tree that have a property, the one at each place once. -/
def ListsOnce (root : SyntaxNode) (P : SyntaxNode → Prop) (ns : List SyntaxNode) : Prop :=
  ∃ ps : List (List (Slot × ℕ)), ps.Nodup ∧
    (∀ place, place ∈ ps ↔ ∃ n, root.nodeAt? place = some n ∧ P n) ∧
      ps.map root.nodeAt? = ns.map some

/-- **A tour lists each node once** that takes each slot once and leaves none out that holds a
node. -/
theorem listsOnce_tour (horder : ∀ kind, (order kind).Nodup) {root : SyntaxNode}
    (h : LeavesOutNothing order root) :
    ListsOnce root (fun _ => True) ((tour order [] root).map Visit.node) := by
  refine ⟨places order root, nodup_places horder root, fun place => ?_, ?_⟩
  · rw [mem_places h, Option.isSome_iff_exists]
    simp only [and_true]
  · rw [map_nodeAt?_places order [], List.map_map]
    rfl

/-- What is left of such a list by a test lists the nodes that pass it. -/
theorem ListsOnce.filter {root : SyntaxNode} {ns : List SyntaxNode}
    (h : ListsOnce root (fun _ => True) ns) (P : SyntaxNode → Prop) [DecidablePred P] :
    ListsOnce root P (ns.filter P) := by
  obtain ⟨ps, hnodup, hmem, hnodes⟩ := h
  refine ⟨ps.filter fun place => (root.nodeAt? place).any fun n => P n, hnodup.filter _, ?_, ?_⟩
  · intro place
    rw [List.mem_filter, hmem]
    simp only [and_true, Option.any_eq_true, decide_eq_true_eq]
    constructor
    · exact fun h => h.2
    · exact fun ⟨n, hn, hP⟩ => ⟨⟨n, hn⟩, n, hn, hP⟩
  · have hfilter := congrArg (List.filter fun n? => n?.any fun n => P n) hnodes
    rwa [List.filter_map, List.filter_map] at hfilter

end SmellScan.SyntaxNode
