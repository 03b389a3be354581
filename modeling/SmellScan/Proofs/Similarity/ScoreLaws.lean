import Mathlib.Algebra.Order.Field.Basic
import Mathlib.Algebra.Order.Ring.Unbundled.Rat
import Mathlib.Data.Rat.Lemmas
import SmellScan.Proofs.Numeric.Shortest
import SmellScan.Proofs.Similarity.EditSequence
import SmellScan.Similarity.Match

/-!
# Laws of the distance and of the score

The table of distances is laid along the shorter list, so nothing about it is symmetric to look at.
The distance is the least number of edits, though, and edit scripts can be read backwards and put
one after the other. Hence it is a metric (`editDistance_comm`, `editDistance_eq_zero`,
`editDistance_triangle`), between the difference of the lengths and the greater of them.

The score of two texts is the double nearest to a quotient, `exactScore`, whose denominator is
nowhere zero (`score_eq_nearest`). What the score is meant to be holds of the quotient exactly
(`score_laws`).
-/

namespace SmellScan

/-! ## The nearest double -/

/-- The double nearest to a rational number. -/
def Double.nearest (q : ℚ) : Double :=
  .ofUnits (q < 0) (q.num.natAbs * unitsPerOne) q.den

/-- Rounding a quotient does not depend on how it is written. -/
theorem Double.ofRatio_eq_nearest (num : ℕ) {den : ℕ} (hden : 0 < den) :
    ofRatio num den = nearest (num / den) := by
  set q : ℚ := num / den with hq
  have hpos : 0 ≤ q := by positivity
  have hnum : (q.num.natAbs : ℤ) = q.num := Int.natAbs_of_nonneg (Rat.num_nonneg.2 hpos)
  have hcross : num * q.den = q.num.natAbs * den := by
    have hfraction : (num : ℚ) / den = q.num / q.den := by rw [Rat.num_div_den, hq]
    rw [div_eq_div_iff (by positivity) (by exact_mod_cast q.den_ne_zero), ← hnum] at hfraction
    exact_mod_cast hfraction
  have hunits : num * unitsPerOne * q.den = q.num.natAbs * unitsPerOne * den := by
    rw [Nat.mul_right_comm, hcross, Nat.mul_right_comm]
  simp only [ofRatio, nearest, ofUnits, roundUnits_congr hden q.den_pos hunits,
    decide_eq_false hpos.not_gt]

namespace Similarity

section Metric

variable {α : Type} {as bs : List α}

/-! ## The distance is a metric -/

theorem EditScript.eq_of_zero (h : EditScript as bs 0) : as = bs := by
  generalize hn : 0 = n at h
  induction h with
  | nil => rfl
  | keep a _ ih => rw [ih hn]
  | replace | delete | insert => omega

theorem IsDistance.unique {d d' : ℕ} (h : IsDistance as bs d) (h' : IsDistance as bs d') :
    d = d' :=
  le_antisymm (h.least h'.script) (h'.least h.script)

variable [DecidableEq α]

theorem editDistance_comm (as bs : List α) : editDistance as bs = editDistance bs as :=
  (isDistance_editDistance as bs).unique (isDistance_editDistance bs as).symm

theorem editDistance_eq_zero : editDistance as bs = 0 ↔ as = bs := by
  constructor
  · intro h
    have hscript := (isDistance_editDistance as bs).script
    rw [h] at hscript
    exact hscript.eq_of_zero
  · rintro rfl
    exact editDistance_self as

/-- Edits by way of a third list are edits. -/
theorem editDistance_triangle (as bs cs : List α) :
    editDistance as cs ≤ editDistance as bs + editDistance bs cs := by
  obtain ⟨n, hn, hscript⟩ :=
    (isDistance_editDistance as bs).script.trans (isDistance_editDistance bs cs).script
  exact ((isDistance_editDistance as cs).least hscript).trans hn

end Metric

/-! ## The exact score -/

/-- The score before it is rounded. -/
def exactScore (a b : String) : ℚ :=
  if a = b then 1
  else
    let longer := max a.length b.length
    (longer - editDistance a.toList b.toList) / longer

variable {a b : String}

/-- Where there is something to compare there is a denominator. -/
theorem max_length_pos (h : ¬(a = "" ∧ b = "")) : 0 < max a.length b.length := by
  rw [← String.length_eq_zero_iff, ← String.length_eq_zero_iff] at h
  omega

theorem max_length_pos_of_ne (h : a ≠ b) : 0 < max a.length b.length := by
  refine max_length_pos ?_
  rintro ⟨rfl, rfl⟩
  exact h rfl

theorem editDistance_toList_eq_zero : editDistance a.toList b.toList = 0 ↔ a = b := by
  rw [editDistance_eq_zero, String.toList_inj]

theorem editDistance_toList_le_max (a b : String) :
    editDistance a.toList b.toList ≤ max a.length b.length := by
  simpa only [String.length_toList] using editDistance_le_max a.toList b.toList

theorem max_le_min_add_editDistance (a b : String) :
    max a.length b.length ≤ min a.length b.length + editDistance a.toList b.toList := by
  simpa only [String.length_toList] using length_le_add_editDistance a.toList b.toList

/-- The quotient is the score of equal texts as well, if they are not empty. -/
theorem exactScore_eq (h : 0 < max a.length b.length) :
    exactScore a b = ((max a.length b.length - editDistance a.toList b.toList : ℕ) : ℚ) /
      (max a.length b.length : ℕ) := by
  rw [exactScore]
  split_ifs with hab
  · have hlonger : ((max a.length b.length : ℕ) : ℚ) ≠ 0 := by exact_mod_cast h.ne'
    rw [editDistance_toList_eq_zero.2 hab, Nat.sub_zero, div_self hlonger]
  · rw [Nat.cast_sub (editDistance_toList_le_max a b)]

/-- **The score is the exact score, rounded.** -/
theorem score_eq_nearest (a b : String) : score a b = .nearest (exactScore a b) := by
  by_cases hab : a = b
  · have hone := Double.ofRatio_eq_nearest 1 Nat.one_pos
    rw [Double.ofRatio_self Nat.one_pos] at hone
    rw [score, if_pos hab, exactScore, if_pos hab, hone]
    norm_num
  · have hpos := max_length_pos_of_ne hab
    rw [score, if_neg hab, exactScore_eq hpos, ← Double.ofRatio_eq_nearest _ hpos]

theorem exactScore_comm (a b : String) : exactScore a b = exactScore b a := by
  by_cases hab : a = b
  · rw [hab]
  · rw [exactScore_eq (max_length_pos_of_ne hab),
      exactScore_eq (max_length_pos_of_ne (Ne.symm hab)), max_comm, editDistance_comm]

theorem exactScore_nonneg (a b : String) : 0 ≤ exactScore a b := by
  by_cases hab : a = b
  · simp [exactScore, hab]
  · rw [exactScore_eq (max_length_pos_of_ne hab)]
    positivity

/-- The score is at most the quotient of the lengths, as the distance is at least their
difference. -/
theorem exactScore_le (h : 0 < max a.length b.length) :
    exactScore a b ≤ (min a.length b.length : ℕ) / (max a.length b.length : ℕ) := by
  have hdistance := max_le_min_add_editDistance a b
  rw [exactScore_eq h]
  gcongr
  omega

theorem exactScore_le_one (a b : String) : exactScore a b ≤ 1 := by
  by_cases hab : a = b
  · simp [exactScore, hab]
  · have hpos := max_length_pos_of_ne hab
    rw [exactScore_eq hpos, div_le_one (by exact_mod_cast hpos)]
    exact_mod_cast Nat.sub_le _ _

/-- Only a text itself is as similar to it as can be: other texts are at some distance. -/
theorem exactScore_eq_one : exactScore a b = 1 ↔ a = b := by
  constructor
  · intro h
    by_contra hab
    have hpos := max_length_pos_of_ne hab
    have hdistance := mt editDistance_toList_eq_zero.1 hab
    rw [exactScore_eq hpos, div_eq_one_iff_eq (by exact_mod_cast hpos.ne'), Nat.cast_inj] at h
    omega
  · intro hab
    rw [exactScore, if_pos hab]

/-- **Laws of the distance and of the score**: the distance is a metric between the difference and
the maximum of the lengths; the score has a denominator, lies between zero and one, does not depend
on the order of the texts, is one for a text and itself only, and is at most the quotient of the
lengths. -/
theorem score_laws (a b c : String) :
    (editDistance a.toList b.toList = editDistance b.toList a.toList ∧
      (editDistance a.toList b.toList = 0 ↔ a = b) ∧
      editDistance a.toList c.toList ≤
        editDistance a.toList b.toList + editDistance b.toList c.toList ∧
      max a.length b.length - min a.length b.length ≤ editDistance a.toList b.toList ∧
      editDistance a.toList b.toList ≤ max a.length b.length) ∧
    (a ≠ b → 0 < max a.length b.length) ∧ score a b = .nearest (exactScore a b) ∧
    (0 ≤ exactScore a b ∧ exactScore a b ≤ 1) ∧ exactScore a b = exactScore b a ∧
    (exactScore a b = 1 ↔ a = b) ∧
    (¬(a = "" ∧ b = "") →
      exactScore a b ≤ (min a.length b.length : ℕ) / (max a.length b.length : ℕ)) := by
  have hdifference := max_le_min_add_editDistance a b
  refine ⟨⟨editDistance_comm _ _, editDistance_toList_eq_zero, editDistance_triangle _ _ _,
    by omega, editDistance_toList_le_max a b⟩, max_length_pos_of_ne, score_eq_nearest a b,
    ⟨exactScore_nonneg a b, exactScore_le_one a b⟩, exactScore_comm a b, exactScore_eq_one, ?_⟩
  intro hsome
  exact exactScore_le (max_length_pos hsome)

end Similarity

end SmellScan
