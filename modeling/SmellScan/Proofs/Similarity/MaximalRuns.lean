import Mathlib.Data.Int.Notation
import Mathlib.Data.List.Nodup
import Mathlib.Logic.ExistsUnique
import Mathlib.Order.Nat
import SmellScan.Similarity.LineCluster

/-!
# Shared lines are maximal runs

Two texts share a run where the same lines stand one below the other in both, each pair of them on
one diagonal of the table of all pairs of lines. `Run.IsMaximal` says without the search what it is
for a run to have at least two lines and to go on at neither end. `find` looks at every pair of
positions and skips those right behind an equal pair; it lists just these runs, by first line in the
one text and then in the other (`find_maximalRuns`).

* A run from two positions on is as long as the lines from there on agree (`sharedLength_eq_iff`).
* The search over both texts is a search over all pairs of positions (`alongB_eq`, `alongA_eq`), and
  at each pair it finds the one maximal run that starts there (`runAt?_eq_some`).
* A pair of equal lines with an equal neighbour on its diagonal is in one maximal run, which is
  found by going back to its first pair (`exists_isMaximal`), and in no other (`IsMaximal.unique`).
-/

namespace SmellScan.Similarity.LineCluster

variable {as bs : List String} {i j n : ℕ}

/-! ## Runs -/

/-- The lines at two positions, from 0, are there and are equal. -/
def EqualAt (as bs : List String) (i j : ℕ) : Prop :=
  i < as.length ∧ as[i]? = bs[j]?

instance (as bs : List String) (i j : ℕ) : Decidable (EqualAt as bs i j) :=
  inferInstanceAs (Decidable (_ ∧ _))

/-- Lines of two texts that may be shared: so many from each of two positions on. -/
@[ext]
structure Run where
  startA : ℕ
  startB : ℕ
  length : ℕ
  deriving DecidableEq, Repr

/-- The numbers, from 1, of `count` lines behind the first `skipped`. -/
def lineNumbers (skipped count : ℕ) : List ℤ :=
  (List.range' (skipped + 1) count).map fun k : ℕ => (k : ℤ)

namespace Run

/-- A run is shared and cannot be made longer: it has at least two lines, all of them equal, and the
pairs before its first and behind its last are not equal, if they are there. -/
structure IsMaximal (as bs : List String) (r : Run) : Prop where
  two_le : 2 ≤ r.length
  equal : ∀ k < r.length, EqualAt as bs (r.startA + k) (r.startB + k)
  left : r.startA = 0 ∨ r.startB = 0 ∨ ¬EqualAt as bs (r.startA - 1) (r.startB - 1)
  right : ¬EqualAt as bs (r.startA + r.length) (r.startB + r.length)

/-- The cluster of a run, with its line numbers in each text and its lines. -/
def cluster (as : List String) (r : Run) : LineCluster :=
  ⟨lineNumbers r.startA r.length, lineNumbers r.startB r.length,
    (as.drop r.startA).take r.length⟩

/-- A run starts before another, in the one text or, at the same line of it, in the other. -/
def Before (r r' : Run) : Prop :=
  r.startA < r'.startA ∨ r.startA = r'.startA ∧ r.startB < r'.startB

end Run

/-- A cluster pairs the line behind the first `i` of the one text with that behind the first `j` of
the other. -/
def Holds (c : LineCluster) (i j : ℕ) : Prop :=
  ((i + 1 : ℤ), (j + 1 : ℤ)) ∈ c.linesA.zip c.linesB

/-- The pair before two equal lines or the pair behind them is equal as well. -/
def HasNeighbour (as bs : List String) (i j : ℕ) : Prop :=
  0 < i ∧ 0 < j ∧ EqualAt as bs (i - 1) (j - 1) ∨ EqualAt as bs (i + 1) (j + 1)

/-- Clusters are those of the maximal runs, each once and by first lines, and every pair of equal
lines with an equal neighbour is in one of them. -/
structure ListsMaximalRuns (as bs : List String) (cs : List LineCluster) : Prop where
  runs : ∃ rs : List Run, cs = rs.map (Run.cluster as) ∧ rs.Pairwise Run.Before ∧
    ∀ r, r ∈ rs ↔ r.IsMaximal as bs
  nodup : cs.Nodup
  covers : ∀ i j, EqualAt as bs i j → HasNeighbour as bs i j → ∃! c, c ∈ cs ∧ c.Holds i j

theorem numbers_eq (skipped count : ℕ) : numbers skipped count = lineNumbers skipped count := by
  rw [numbers, lineNumbers, List.range'_eq_map_range, List.map_map]
  refine List.map_congr_left fun k _ => ?_
  rw [Function.comp_apply, Nat.add_right_comm]

theorem equalAt_drop {k : ℕ} :
    EqualAt (as.drop i) (bs.drop j) k k ↔ EqualAt as bs (i + k) (j + k) := by
  rw [EqualAt, EqualAt, List.getElem?_drop, List.getElem?_drop, List.length_drop,
    Nat.lt_sub_iff_add_lt']

theorem equalAt_cons_zero {a b : String} : EqualAt (a :: as) (b :: bs) 0 0 ↔ a = b := by
  simp [EqualAt]

theorem equalAt_cons_succ {a b : String} :
    EqualAt (a :: as) (b :: bs) (i + 1) (j + 1) ↔ EqualAt as bs i j := by
  simp [EqualAt]

theorem equalAt_of_lt_sharedLength {k : ℕ} (h : k < sharedLength as bs) : EqualAt as bs k k := by
  fun_induction sharedLength as bs generalizing k with
  | case1 as a bs ih =>
    cases k with
    | zero => exact equalAt_cons_zero.2 rfl
    | succ k => exact equalAt_cons_succ.2 (ih (Nat.lt_of_succ_lt_succ h))
  | case2 | case3 => exact absurd h (Nat.not_lt_zero k)

theorem not_equalAt_sharedLength (as bs : List String) :
    ¬EqualAt as bs (sharedLength as bs) (sharedLength as bs) := by
  fun_induction sharedLength as bs with
  | case1 as a bs ih => exact fun h => ih (equalAt_cons_succ.1 h)
  | case2 a as b bs hab => exact fun h => hab (equalAt_cons_zero.1 h)
  | case3 as bs hcons =>
    rintro ⟨hlt, heq⟩
    cases as with
    | nil => exact absurd hlt (Nat.not_lt_zero 0)
    | cons a as =>
      cases bs with
      | nil => cases heq
      | cons b bs => exact hcons a as b bs rfl rfl

/-- **How long two texts agree** from their start on: up to the first pair that is not equal. -/
theorem sharedLength_eq_iff :
    sharedLength as bs = n ↔ (∀ k < n, EqualAt as bs k k) ∧ ¬EqualAt as bs n n := by
  constructor
  · rintro rfl
    exact ⟨fun k hk => equalAt_of_lt_sharedLength hk, not_equalAt_sharedLength as bs⟩
  · rintro ⟨hbefore, hlast⟩
    refine le_antisymm ?_ ?_
    · exact not_lt.1 fun hlt => hlast (equalAt_of_lt_sharedLength hlt)
    · exact not_lt.1 fun hlt => not_equalAt_sharedLength as bs (hbefore _ hlt)

/-! ## The search -/

/-- The line before a position. -/
def lineBefore (ls : List String) : ℕ → Option String
  | 0 => none
  | i + 1 => ls[i]?

theorem continues_iff : continues (lineBefore as i) (lineBefore bs j) = true ↔
    ¬(i = 0 ∨ j = 0 ∨ ¬EqualAt as bs (i - 1) (j - 1)) := by
  cases i with
  | zero => simp [lineBefore, continues]
  | succ i =>
    cases j with
    | zero => simp [lineBefore, continues]
    | succ j => simp [lineBefore, continues, EqualAt]

/-- The maximal run that starts at two positions, if there is one. -/
def runAt? (as bs : List String) (i j : ℕ) : Option Run :=
  let n := sharedLength (as.drop i) (bs.drop j)
  if 2 ≤ n ∧ (i = 0 ∨ j = 0 ∨ ¬EqualAt as bs (i - 1) (j - 1)) then some ⟨i, j, n⟩ else none

theorem runAt?_eq_some {r : Run} : runAt? as bs i j = some r ↔
    r.IsMaximal as bs ∧ r.startA = i ∧ r.startB = j := by
  obtain ⟨i', j', n⟩ := r
  have hlength := @sharedLength_eq_iff (as.drop i) (bs.drop j) n
  simp only [equalAt_drop] at hlength
  rw [runAt?, Option.ite_none_right_eq_some, Option.some.injEq, Run.mk.injEq]
  constructor
  · rintro ⟨⟨hlong, hleft⟩, rfl, rfl, hn⟩
    obtain ⟨hequal, hright⟩ := hlength.1 hn
    exact ⟨⟨hn ▸ hlong, hequal, hleft, hright⟩, rfl, rfl⟩
  · rintro ⟨⟨hlong, hequal, hleft, hright⟩, rfl, rfl⟩
    have hn := hlength.2 ⟨hequal, hright⟩
    exact ⟨⟨hn ▸ hlong, hleft⟩, rfl, rfl, hn⟩

theorem startingAt?_eq (i j : ℕ) (as bs : List String) :
    startingAt? i j (as.drop i) (bs.drop j) =
      if 2 ≤ sharedLength (as.drop i) (bs.drop j) then
        some (Run.cluster as ⟨i, j, sharedLength (as.drop i) (bs.drop j)⟩)
      else none := by
  simp only [startingAt?, minLines, numbers_eq, Run.cluster]

/-- **At one pair of positions** the search adds the cluster of the maximal run that starts there,
if there is one. -/
theorem alongB_cons (hj : j < bs.length) :
    alongB i (lineBefore as i) (as.drop i) j (lineBefore bs j) (bs.drop j) =
      ((runAt? as bs i j).map (Run.cluster as)).toList ++
        alongB i (lineBefore as i) (as.drop i) (j + 1) (lineBefore bs (j + 1))
          (bs.drop (j + 1)) := by
  have hdrop := List.drop_eq_getElem_cons hj
  have hbefore : lineBefore bs (j + 1) = some bs[j] := List.getElem?_eq_getElem hj
  rw [hdrop, alongB, ← hdrop, hbefore, startingAt?_eq, runAt?]
  by_cases hlong : 2 ≤ sharedLength (as.drop i) (bs.drop j)
  · -- the first lines of a run are equal, so only the pair before them matters
    have hhead : (as.drop i).head? = some bs[j] := by
      have hequal := (@equalAt_of_lt_sharedLength (as.drop i) (bs.drop j) 0 (by omega)).2
      rwa [← List.head?_eq_getElem?, hdrop] at hequal
    by_cases hleft : i = 0 ∨ j = 0 ∨ ¬EqualAt as bs (i - 1) (j - 1)
    · have hfirst : continues (lineBefore as i) (lineBefore bs j) = false :=
        eq_false_of_ne_true fun h => continues_iff.1 h hleft
      simp [hlong, hleft, hhead, hfirst]
    · have hlater := continues_iff.2 hleft
      simp [hleft, hlater]
  · simp [hlong]

/-- **Along the one text** the search meets every position. -/
theorem alongB_eq (i j : ℕ) :
    alongB i (lineBefore as i) (as.drop i) j (lineBefore bs j) (bs.drop j) =
      ((List.range' j (bs.length - j)).filterMap (runAt? as bs i)).map (Run.cluster as) := by
  induction hm : bs.length - j generalizing j with
  | zero =>
    have hnil : bs.drop j = [] := List.drop_eq_nil_of_le (by omega)
    rw [hnil]
    rfl
  | succ m ih =>
    rw [alongB_cons (by omega), ih (j + 1) (by omega), List.range'_succ, List.filterMap_cons]
    cases runAt? as bs i j <;> rfl

/-- All maximal runs of two texts, by first lines. -/
def maximalRuns (as bs : List String) : List Run :=
  (List.range as.length).flatMap fun i => (List.range bs.length).filterMap (runAt? as bs i)

/-- **Along both texts** the search meets every pair of positions. -/
theorem alongA_eq (i : ℕ) :
    alongA bs i (lineBefore as i) (as.drop i) =
      ((List.range' i (as.length - i)).flatMap fun i =>
        (List.range bs.length).filterMap (runAt? as bs i)).map (Run.cluster as) := by
  induction hm : as.length - i generalizing i with
  | zero =>
    have hnil : as.drop i = [] := List.drop_eq_nil_of_le (by omega)
    rw [hnil]
    rfl
  | succ m ih =>
    have hi : i < as.length := by omega
    have hdrop := List.drop_eq_getElem_cons hi
    have hbefore : lineBefore as (i + 1) = some as[i] := List.getElem?_eq_getElem hi
    have hrow : alongB i (lineBefore as i) (as.drop i) 0 none bs =
        ((List.range bs.length).filterMap (runAt? as bs i)).map (Run.cluster as) := by
      rw [List.range_eq_range']
      exact alongB_eq i 0
    rw [hdrop, alongA, ← hdrop, hrow, ← hbefore, ih (i + 1) (by omega), List.range'_succ,
      List.flatMap_cons, List.map_append]

theorem mem_maximalRuns {r : Run} : r ∈ maximalRuns as bs ↔ r.IsMaximal as bs := by
  simp only [maximalRuns, List.mem_flatMap, List.mem_filterMap, List.mem_range, runAt?_eq_some]
  constructor
  · rintro ⟨i, -, j, -, h, -, -⟩
    exact h
  · intro h
    obtain ⟨hlt, heq⟩ := h.equal 0 (by have := h.two_le; omega)
    refine ⟨r.startA, hlt, r.startB, ?_, h, rfl, rfl⟩
    rw [List.getElem?_eq_getElem hlt] at heq
    exact (List.getElem?_eq_some_iff.1 heq.symm).1

theorem pairwise_maximalRuns (as bs : List String) : (maximalRuns as bs).Pairwise Run.Before := by
  refine List.pairwise_flatMap.2 ⟨fun i _ => List.pairwise_filterMap.2 ?_, ?_⟩
  · refine List.pairwise_lt_range.imp fun hlt r hr r' hr' => ?_
    obtain ⟨-, hA, hB⟩ := runAt?_eq_some.1 hr
    obtain ⟨-, hA', hB'⟩ := runAt?_eq_some.1 hr'
    exact Or.inr ⟨by rw [hA, hA'], by rwa [hB, hB']⟩
  · refine List.pairwise_lt_range.imp fun hlt r hr r' hr' => ?_
    obtain ⟨j, -, hr⟩ := List.mem_filterMap.1 hr
    obtain ⟨j', -, hr'⟩ := List.mem_filterMap.1 hr'
    obtain ⟨-, hA, -⟩ := runAt?_eq_some.1 hr
    obtain ⟨-, hA', -⟩ := runAt?_eq_some.1 hr'
    exact Or.inl (by rwa [hA, hA'])

/-- The search over two texts that differ. -/
theorem find_eq {a b : String} (h : a ≠ b) :
    find a b =
      (maximalRuns (trimmedLines a) (trimmedLines b)).map (Run.cluster (trimmedLines a)) := by
  have hall := @alongA_eq (trimmedLines a) (trimmedLines b) 0
  rw [Nat.sub_zero, ← List.range_eq_range'] at hall
  rw [find, if_neg h]
  exact hall

/-! ## The run of a pair -/

theorem getElem?_lineNumbers {skipped count k : ℕ} {z : ℤ} :
    (lineNumbers skipped count)[k]? = some z ↔ k < count ∧ z = skipped + k + 1 := by
  rw [lineNumbers, List.getElem?_map, Option.map_eq_some_iff]
  constructor
  · rintro ⟨m, hm, rfl⟩
    obtain ⟨hk, rfl⟩ := List.getElem?_eq_some_iff.1 hm
    rw [List.length_range'] at hk
    rw [List.getElem_range']
    exact ⟨hk, by omega⟩
  · rintro ⟨hk, rfl⟩
    refine ⟨skipped + 1 + k, ?_, by omega⟩
    rw [List.getElem?_range' hk, Nat.one_mul]

/-- The pairs of a run stand on its diagonal. -/
theorem holds_cluster {r : Run} :
    (r.cluster as).Holds i j ↔ ∃ k < r.length, i = r.startA + k ∧ j = r.startB + k := by
  simp only [Holds, Run.cluster, List.mem_iff_getElem?, List.getElem?_zip_eq_some,
    getElem?_lineNumbers]
  constructor
  · rintro ⟨k, ⟨hk, hA⟩, -, hB⟩
    exact ⟨k, hk, by omega, by omega⟩
  · rintro ⟨k, hk, rfl, rfl⟩
    exact ⟨k, ⟨hk, by omega⟩, hk, by omega⟩

/-- From an equal pair one comes back, over equal pairs, to one that has no equal pair before it. -/
theorem exists_first (h : EqualAt as bs i j) :
    ∃ i' j' k, i = i' + k ∧ j = j' + k ∧ (∀ l ≤ k, EqualAt as bs (i' + l) (j' + l)) ∧
      (i' = 0 ∨ j' = 0 ∨ ¬EqualAt as bs (i' - 1) (j' - 1)) := by
  induction i generalizing j with
  | zero =>
    refine ⟨0, j, 0, rfl, rfl, fun l hl => ?_, Or.inl rfl⟩
    rwa [Nat.le_zero.1 hl]
  | succ i ih =>
    by_cases hleft : j = 0 ∨ ¬EqualAt as bs i (j - 1)
    · refine ⟨i + 1, j, 0, rfl, rfl, fun l hl => ?_, Or.inr hleft⟩
      rwa [Nat.le_zero.1 hl]
    · obtain ⟨hj, hbefore⟩ := not_or.1 hleft
      obtain ⟨i', j', k, hi, hjk, hequal, hfirst⟩ := ih (not_not.1 hbefore)
      refine ⟨i', j', k + 1, by omega, by omega, fun l hl => ?_, hfirst⟩
      rcases Nat.lt_or_eq_of_le hl with hlt | rfl
      · exact hequal l (Nat.le_of_lt_succ hlt)
      · rwa [← Nat.add_assoc, ← hi, ← Nat.add_assoc, ← hjk, Nat.sub_add_cancel (by omega)]

/-- **An equal pair with an equal neighbour is in a maximal run.** -/
theorem exists_isMaximal (h : EqualAt as bs i j) (hnext : HasNeighbour as bs i j) :
    ∃ r : Run, r.IsMaximal as bs ∧ ∃ k < r.length, i = r.startA + k ∧ j = r.startB + k := by
  obtain ⟨i', j', k, rfl, rfl, hequal, hfirst⟩ := exists_first h
  obtain ⟨hbefore, hlast⟩ := (@sharedLength_eq_iff (as.drop i') (bs.drop j') _).1 rfl
  generalize sharedLength (as.drop i') (bs.drop j') = n at hbefore hlast
  simp only [equalAt_drop] at hbefore hlast
  have hk : k < n := Nat.lt_of_not_le fun hle => hlast (hequal n hle)
  have hlong : 2 ≤ n := by
    rcases hnext with ⟨hi, hj, hleft⟩ | hright
    · -- the pair before is equal, so the run does not start here
      have hne : k ≠ 0 := by
        rintro rfl
        rcases hfirst with hfirst | hfirst | hfirst
        · omega
        · omega
        · exact hfirst hleft
      omega
    · have hne : n ≠ k + 1 := by
        rintro rfl
        exact hlast hright
      omega
  exact ⟨⟨i', j', n⟩, ⟨hlong, hbefore, hfirst, hlast⟩, k, hk, rfl, rfl⟩

namespace Run

variable {r r' : Run} {k k' : ℕ}

/-- Of two runs with a pair in common, none starts before a maximal one. -/
theorem IsMaximal.start_le (h : r.IsMaximal as bs) (h' : r'.IsMaximal as bs) (hk : k < r.length)
    (hA : r.startA + k = r'.startA + k') (hB : r.startB + k = r'.startB + k') :
    r'.startA ≤ r.startA := by
  by_contra hlt
  obtain ⟨d, hd⟩ : ∃ d, r'.startA = r.startA + d + 1 := ⟨r'.startA - r.startA - 1, by omega⟩
  have hd' : r'.startB = r.startB + d + 1 := by omega
  have hequal := h.equal d (by omega)
  rcases h'.left with hleft | hleft | hleft
  · omega
  · omega
  · rw [hd, hd'] at hleft
    exact hleft hequal

/-- Of two runs with the same start, none is longer than a maximal one. -/
theorem IsMaximal.length_le (h : r.IsMaximal as bs) (h' : r'.IsMaximal as bs)
    (hA : r.startA = r'.startA) (hB : r.startB = r'.startB) : r.length ≤ r'.length := by
  by_contra hlt
  have hequal := h.equal r'.length (by omega)
  rw [hA, hB] at hequal
  exact h'.right hequal

/-- **Two maximal runs with a pair in common are one.** -/
theorem IsMaximal.unique (h : r.IsMaximal as bs) (h' : r'.IsMaximal as bs) (hk : k < r.length)
    (hk' : k' < r'.length) (hA : r.startA + k = r'.startA + k')
    (hB : r.startB + k = r'.startB + k') : r = r' := by
  have hle := h.start_le h' hk hA hB
  have hge := h'.start_le h hk' hA.symm hB.symm
  have hstartA : r.startA = r'.startA := le_antisymm hge hle
  have hstartB : r.startB = r'.startB := by omega
  have hlength : r.length = r'.length :=
    le_antisymm (h.length_le h' hstartA hstartB) (h'.length_le h hstartA.symm hstartB.symm)
  exact Run.ext hstartA hstartB hlength

/-- A maximal run is known by its cluster, from the first pair of which it starts. -/
theorem IsMaximal.eq_of_cluster_eq (h : r.IsMaximal as bs) (h' : r'.IsMaximal as bs)
    (hcluster : r.cluster as = r'.cluster as) : r = r' := by
  have hpos : 0 < r.length := Nat.lt_of_lt_of_le Nat.two_pos h.two_le
  have hfirst : (r.cluster as).Holds r.startA r.startB := holds_cluster.2 ⟨0, hpos, rfl, rfl⟩
  rw [hcluster] at hfirst
  obtain ⟨k', hk', hA, hB⟩ := holds_cluster.1 hfirst
  exact h.unique h' hpos hk' hA hB

end Run

theorem listsMaximalRuns (as bs : List String) :
    ListsMaximalRuns as bs ((maximalRuns as bs).map (Run.cluster as)) where
  runs := ⟨maximalRuns as bs, rfl, pairwise_maximalRuns as bs, fun _ => mem_maximalRuns⟩
  nodup := by
    have hruns : (maximalRuns as bs).Nodup := by
      refine (pairwise_maximalRuns as bs).imp ?_
      rintro r _ hbefore rfl
      unfold Run.Before at hbefore
      omega
    refine hruns.map_on fun r hr r' hr' hcluster => ?_
    exact (mem_maximalRuns.1 hr).eq_of_cluster_eq (mem_maximalRuns.1 hr') hcluster
  covers := by
    intro i j hequal hnext
    obtain ⟨r, hr, hpair⟩ := exists_isMaximal hequal hnext
    refine ⟨r.cluster as, ⟨List.mem_map_of_mem (mem_maximalRuns.2 hr), holds_cluster.2 hpair⟩, ?_⟩
    rintro c ⟨hc, hholds⟩
    obtain ⟨r', hr', rfl⟩ := List.mem_map.1 hc
    obtain ⟨k, hk, hA, hB⟩ := hpair
    obtain ⟨k', hk', hA', hB'⟩ := holds_cluster.1 hholds
    rw [(mem_maximalRuns.1 hr').unique hr hk' hk (hA'.symm.trans hA) (hB'.symm.trans hB)]

/-- **The clusters of two texts are their maximal shared runs**, one for each and by first lines,
and so every pair of equal lines with an equal neighbour is in just one of them. Equal texts share
one run, all their lines. -/
theorem find_maximalRuns (a b : String) :
    (a ≠ b → ListsMaximalRuns (trimmedLines a) (trimmedLines b) (find a b)) ∧
      find a a = [⟨lineNumbers 0 (trimmedLines a).length, lineNumbers 0 (trimmedLines a).length,
        trimmedLines a⟩] := by
  constructor
  · intro h
    rw [find_eq h]
    exact listsMaximalRuns _ _
  · rw [find, if_pos rfl, numbers_eq]

/-- Two lines that stand twice in the one text, once indented, and once in the other. -/
theorem find_maximalRuns_repeated :
    let a := "x\n  y\n\nx\ny"
    let b := "x\ny \nz"
    a ≠ b ∧ find a b = [⟨[1, 2], [1, 2], ["x", "y"]⟩, ⟨[4, 5], [1, 2], ["x", "y"]⟩] ∧
      ListsMaximalRuns (trimmedLines a) (trimmedLines b) (find a b) ∧
      find a a = [⟨lineNumbers 0 5, lineNumbers 0 5, ["x", "y", "", "x", "y"]⟩] :=
  ⟨by decide, by decide, (find_maximalRuns _ _).1 (by decide), (find_maximalRuns _ "").2⟩

end SmellScan.Similarity.LineCluster
