import Mathlib.Order.Basic
import SmellScan.Proofs.Numeric.Rounding
import SmellScan.Proofs.Similarity.EditScript
import SmellScan.Proofs.SortByKey
import SmellScan.Similarity.Match

/-!
# The search for near-copies is exact

`findMatches` skips pairs by their lengths alone and never computes the distance of equal texts. The
plain rule does neither: a pair of long enough blocks is a near-copy when the longer length less the
edit distance, over the longer length, is at least the threshold (`NearCopies`). Both give the same
matches (`findMatches_exact`):

* the score of equal texts is that quotient too, rounded (`score_eq_plainScore`);
* the distance is at least the difference of the lengths and rounding is monotone, so lengths that
  rule a pair out keep its rounded score below the threshold (`lt_of_ruledOut`);
* the keys are sorted before pairs are formed, so each two keys are met once, in dictionary order
  (`mem_pairs_iff`, `pairwise_pairs`), whatever the order of the table.
-/

namespace SmellScan.Similarity

/-! ## The plain rule -/

/-- The double nearest to an integer over a count. -/
def quotient (num : ℤ) (den : ℕ) : Double :=
  .ofUnits (num < 0) (num.natAbs * Double.unitsPerOne) den

/-- The score by the distance alone; that of two empty texts is one. -/
def plainScore (a b : String) : Double :=
  let longer := max a.length b.length
  if longer = 0 then .one else quotient (longer - editDistance a.toList b.toList) longer

/-- Two blocks are near-copies: both are long enough and they score at least the threshold, if that
is a number. -/
def NearCopies (minLength : ℤ) (threshold : Double) (a b : CodeBlock) : Prop :=
  minLength ≤ a.text.length ∧ minLength ≤ b.text.length ∧
    (threshold ≠ .nan → threshold.le (plainScore a.text b.text) = true)

instance (minLength : ℤ) (threshold : Double) (a b : CodeBlock) :
    Decidable (NearCopies minLength threshold a b) :=
  inferInstanceAs (Decidable (_ ∧ _ ∧ _))

/-- The match of two near-copies. -/
def plainMatch (a b : CodeBlock) : Match :=
  ⟨a, b, plainScore a.text b.text, LineCluster.find a.text b.text⟩

/-- `ms` lists the near-copies of a table by ascending pair of keys: one match for each two keys
whose blocks are near-copies, the block of the smaller key first, and no other. -/
def ListsNearCopies (table : BlockTable) (minLength : ℤ) (threshold : Double) (ms : List Match) :
    Prop :=
  ∃ ps : List ((ℤ × CodeBlock) × (ℤ × CodeBlock)),
    ms = ps.map (fun p => plainMatch p.1.2 p.2.2) ∧
    ps.Pairwise (fun p q => p.1.1 < q.1.1 ∨ p.1.1 = q.1.1 ∧ p.2.1 < q.2.1) ∧
    ∀ e e', (e, e') ∈ ps ↔
      e ∈ table ∧ e' ∈ table ∧ e.1 < e'.1 ∧ NearCopies minLength threshold e.2 e'.2

/-! ## The short cuts -/

theorem quotient_natCast (num den : ℕ) : quotient num den = .ofRatio num den := by
  have hnum : ¬(num : ℤ) < 0 := by omega
  simp [quotient, Double.ofRatio, hnum]

/-- The distance is at most the longer length, so the difference is no negative number. -/
theorem plainScore_eq {a b : String} (h : 0 < max a.length b.length) :
    plainScore a b = .ofRatio (max a.length b.length - editDistance a.toList b.toList)
      (max a.length b.length) := by
  have hle : editDistance a.toList b.toList ≤ max a.length b.length := by
    simpa only [String.length_toList] using editDistance_le_max a.toList b.toList
  rw [plainScore, if_neg h.ne', ← quotient_natCast, Int.ofNat_sub hle]

theorem plainScore_ne_nan (a b : String) : plainScore a b ≠ .nan := by
  rcases Nat.eq_zero_or_pos (max a.length b.length) with h | h
  · simp [plainScore, h, Double.one]
  · rw [plainScore_eq h]
    exact Double.ofRatio_ne_nan _ _

/-- **The short cut for equal texts does not change the score.** -/
theorem score_eq_plainScore (a b : String) : score a b = plainScore a b := by
  rcases Nat.eq_zero_or_pos (max a.length b.length) with h | h
  · have ha : a = "" := String.length_eq_zero_iff.1 (by omega)
    have hb : b = "" := String.length_eq_zero_iff.1 (by omega)
    simp [score, plainScore, ha, hb]
  · rw [plainScore_eq h, score]
    split_ifs with hab
    · subst hab
      rw [editDistance_self, Nat.sub_zero, Double.ofRatio_self h]
    · rfl

/-- **Lengths that rule a pair out keep its score below the threshold.** -/
theorem lt_of_ruledOut {threshold : Double} {a b : String}
    (h : ruledOut threshold a.length b.length = true) :
    (plainScore a b).lt threshold = true := by
  simp only [ruledOut, Bool.and_eq_true, decide_eq_true_eq] at h
  obtain ⟨hpos, hlt⟩ := h
  have hlen := length_le_add_editDistance a.toList b.toList
  simp only [String.length_toList] at hlen
  rw [plainScore_eq hpos]
  exact Double.lt_of_ofRatio_lt hpos (by omega) hlt

/-- **A pair is compared by the plain rule.** -/
theorem comparePair?_eq (minLength : ℤ) (threshold : Double) (a b : CodeBlock) :
    comparePair? minLength threshold a b =
      if NearCopies minLength threshold a b then some (plainMatch a b) else none := by
  have hscore := Double.lt_eq_false_iff (plainScore_ne_nan a.text b.text) threshold
  simp only [comparePair?, NearCopies, score_eq_plainScore, plainMatch, ← hscore]
  by_cases hlong : minLength ≤ a.text.length ∧ minLength ≤ b.text.length
  · obtain ⟨ha, hb⟩ := hlong
    have hshort : ¬(a.text.length < minLength ∨ b.text.length < minLength) := by omega
    simp only [ha, hb, true_and, Bool.or_eq_true, decide_eq_true_eq, if_neg hshort]
    by_cases hruled : ruledOut threshold a.text.length b.text.length = true
    · simp [hruled, lt_of_ruledOut hruled]
    · by_cases hlt : (plainScore a.text b.text).lt threshold = true <;> simp [hruled, hlt]
  · have hshort : a.text.length < minLength ∨ b.text.length < minLength := by omega
    rw [if_pos (by simpa using hshort), if_neg fun h => hlong ⟨h.1, h.2.1⟩]

/-! ## The pairs -/

section Pairs

variable {α β : Type}

theorem pairs_map (f : α → β) (as : List α) :
    pairs (as.map f) = (pairs as).map (Prod.map f f) := by
  induction as with
  | nil => rfl
  | cons a as ih => simp [pairs, ih, Function.comp_def]

/-- The pairs of a list in strict order are the pairs of its elements in that order. -/
theorem mem_pairs_iff {r : α → α → Prop} (hasymm : ∀ a b, r a b → ¬r b a) {as : List α}
    (h : as.Pairwise r) {a b : α} : (a, b) ∈ pairs as ↔ a ∈ as ∧ b ∈ as ∧ r a b := by
  induction as with
  | nil => simp [pairs]
  | cons c as ih =>
    obtain ⟨hc, has⟩ := List.pairwise_cons.1 h
    simp only [pairs, List.mem_append, List.mem_map, Prod.mk.injEq, ih has, List.mem_cons]
    constructor
    · rintro (⟨b', hb', rfl, rfl⟩ | ⟨ha, hb, hab⟩)
      · exact ⟨Or.inl rfl, Or.inr hb', hc _ hb'⟩
      · exact ⟨Or.inr ha, Or.inr hb, hab⟩
    · rintro ⟨rfl | ha, rfl | hb, hab⟩
      · exact absurd hab (hasymm _ _ hab)
      · exact Or.inl ⟨b, hb, rfl, rfl⟩
      · exact absurd hab (hasymm _ _ (hc _ ha))
      · exact Or.inr ⟨ha, hb, hab⟩

/-- The pairs of a list with ascending keys come in dictionary order of their keys. -/
theorem pairwise_pairs {key : α → ℤ} {as : List α} (h : as.Pairwise fun a b => key a < key b) :
    (pairs as).Pairwise fun p q =>
      key p.1 < key q.1 ∨ key p.1 = key q.1 ∧ key p.2 < key q.2 := by
  induction as with
  | nil => exact List.Pairwise.nil
  | cons a as ih =>
    obtain ⟨ha, has⟩ := List.pairwise_cons.1 h
    rw [pairs, List.pairwise_append]
    refine ⟨?_, ih has, ?_⟩
    · exact List.pairwise_map.2 (has.imp fun hlt => Or.inr ⟨rfl, hlt⟩)
    · rintro p hp ⟨b, c⟩ hq
      obtain ⟨d, -, rfl⟩ := List.mem_map.1 hp
      have hb : b ∈ as := ((mem_pairs_iff (fun _ _ => Int.lt_asymm) has).1 hq).1
      exact Or.inl (ha b hb)

end Pairs

/-! ## The matches of a table -/

/-- The entries of a table by ascending key. -/
def sortedEntries (table : BlockTable) : BlockTable :=
  table.mergeSort fun a b => a.1 ≤ b.1

theorem pairwise_sortedEntries {table : BlockTable} (hkeys : (table.map Prod.fst).Nodup) :
    (sortedEntries table).Pairwise fun e e' => e.1 < e'.1 := by
  have h := pairwise_mergeSort_key Prod.fst (· ≤ ·) (fun _ _ _ => Int.le_trans) Int.le_total hkeys
  exact h.imp fun ⟨hle, hne⟩ => lt_of_le_of_ne hle hne

theorem sortedEntries_congr {table table' : BlockTable} (hkeys : (table.map Prod.fst).Nodup)
    (hperm : table'.Perm table) : sortedEntries table' = sortedEntries table :=
  mergeSort_key_congr Prod.fst (· ≤ ·) (fun _ _ _ => Int.le_trans) Int.le_total
    (fun _ _ => Int.le_antisymm) hkeys hperm

theorem findMatches_eq (table : BlockTable) (minLength : ℤ) (threshold : Double) :
    findMatches table minLength threshold =
      ((pairs (sortedEntries table)).filter fun p =>
        NearCopies minLength threshold p.1.2 p.2.2).map fun p => plainMatch p.1.2 p.2.2 := by
  rw [findMatches, BlockTable.sortedBlocks, ← sortedEntries, pairs_map, List.filterMap_map]
  simp only [Function.comp_def, Prod.map, comparePair?_eq]
  rw [← List.filterMap_eq_map, List.filterMap_filter]
  simp only [decide_eq_true_eq, Function.comp_def]

/-- **The search is exact**, whatever the order in which a table holds its blocks. -/
theorem findMatches_exact (table : BlockTable) (hkeys : (table.map Prod.fst).Nodup)
    (minLength : ℤ) (threshold : Double) :
    ListsNearCopies table minLength threshold (findMatches table minLength threshold) ∧
      ∀ table', table'.Perm table →
        findMatches table' minLength threshold = findMatches table minLength threshold := by
  constructor
  · have hsorted := pairwise_sortedEntries hkeys
    refine ⟨_, findMatches_eq table minLength threshold, (pairwise_pairs hsorted).filter _, ?_⟩
    intro e e'
    rw [List.mem_filter, mem_pairs_iff (fun _ _ => Int.lt_asymm) hsorted]
    simp [sortedEntries, and_assoc]
  · intro table' hperm
    rw [findMatches_eq, findMatches_eq, sortedEntries_congr hkeys hperm]

/-- Blocks out of order, two of which score exactly 0.8, the third ruled out by its length. -/
theorem findMatches_exact_at_threshold :
    let table : BlockTable := [(7, ⟨7, .arrowFunction, "b", "abcdefghXY"⟩),
      (1, ⟨1, .arrowFunction, "a", "abcdefghij"⟩), (9, ⟨9, .classMethod, "c", "abcdefg"⟩)]
    (table.map Prod.fst).Nodup ∧
      ListsNearCopies table 5 defaultThreshold (findMatches table 5 defaultThreshold) ∧
      ∀ table', table'.Perm table →
        findMatches table' 5 defaultThreshold = findMatches table 5 defaultThreshold :=
  ⟨by decide, findMatches_exact _ (by decide) 5 defaultThreshold⟩

/-- No score is at least a threshold that is no number, and none is below it either: every pair of
long enough blocks matches. -/
theorem findMatches_nan :
    let a : CodeBlock := ⟨1, .arrowFunction, "f", "a => a + 1"⟩
    let b : CodeBlock := ⟨2, .arrowFunction, "g", "(b, c) => b * c"⟩
    ∃ m ∈ findMatches [(1, a), (2, b)] 5 .nan, m.blockA = a ∧ m.blockB = b ∧
      Double.nan.le (plainScore a.text b.text) = false := by
  intro a b
  have hsorted := @pairwise_sortedEntries [(1, a), (2, b)] (by decide)
  refine ⟨plainMatch a b, ?_, rfl, rfl, rfl⟩
  rw [findMatches_eq]
  refine List.mem_map.2 ⟨((1, a), (2, b)), List.mem_filter.2 ⟨?_, ?_⟩, rfl⟩
  · rw [mem_pairs_iff (fun _ _ => Int.lt_asymm) hsorted]
    simp [sortedEntries]
  · exact decide_eq_true ⟨by decide, by decide, fun h => absurd rfl h⟩

end SmellScan.Similarity
