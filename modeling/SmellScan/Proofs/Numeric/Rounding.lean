import Mathlib.Tactic.Positivity
import Mathlib.Tactic.Ring
import SmellScan.Numeric.Double

/-!
# Rounding is monotone

Rounding a quotient keeps the order of numerators over one denominator, at each of its layers:

* to the nearest integer (`roundHalfEven_mono`), where multiples of the denominator are fixed;
* to the nearest integer of 53 significant bits (`roundUnits_mono`): two quotients with the same
  exponent are rounded on one grid, and two with different exponents have a power of two between
  them, which both grids hold;
* to the nearest double (`lt_of_ofRatio_lt`): what is below a number stays below it when the
  numerator shrinks.

A number over itself is exactly one (`ofRatio_self`), and quotients are never `nan`, so "not below"
is "at least" for every bound that is a number (`lt_eq_false_iff`).
-/

namespace SmellScan.Double

/-! ## To the nearest integer -/

theorem div_le_roundHalfEven (num den : ℕ) : num / den ≤ roundHalfEven num den := by
  simp only [roundHalfEven]
  split_ifs <;> omega

theorem roundHalfEven_le_div_add_one (num den : ℕ) : roundHalfEven num den ≤ num / den + 1 := by
  simp only [roundHalfEven]
  split_ifs <;> omega

/-- **Rounding to an integer is monotone in the numerator.** -/
theorem roundHalfEven_mono {num num' : ℕ} (den : ℕ) (h : num ≤ num') :
    roundHalfEven num den ≤ roundHalfEven num' den := by
  rcases (Nat.div_le_div_right h : num / den ≤ num' / den).lt_or_eq with hlt | heq
  · calc roundHalfEven num den ≤ num / den + 1 := roundHalfEven_le_div_add_one num den
      _ ≤ num' / den := hlt
      _ ≤ roundHalfEven num' den := div_le_roundHalfEven num' den
  · -- equal quotients leave the remainders to decide
    have hmod : num % den ≤ num' % den := by
      have h₁ := Nat.div_add_mod num den
      have h₂ := Nat.div_add_mod num' den
      rw [heq] at h₁
      omega
    simp only [roundHalfEven, heq]
    split_ifs <;> omega

theorem roundHalfEven_mul_self (k : ℕ) {den : ℕ} (hden : 0 < den) :
    roundHalfEven (k * den) den = k := by
  simp [roundHalfEven, hden]

theorem roundHalfEven_le_of_le_mul {num den k : ℕ} (hden : 0 < den) (h : num ≤ k * den) :
    roundHalfEven num den ≤ k :=
  (roundHalfEven_mono den h).trans (roundHalfEven_mul_self k hden).le

theorem le_roundHalfEven_of_mul_le {num den k : ℕ} (hden : 0 < den) (h : k * den ≤ num) :
    k ≤ roundHalfEven num den :=
  (roundHalfEven_mul_self k hden).ge.trans (roundHalfEven_mono den h)

/-! ## To 53 significant bits -/

theorem roundUnits_eq (num den : ℕ) :
    roundUnits num den = roundHalfEven num (den * 2 ^ ((num / den).log2 - 52)) *
      2 ^ ((num / den).log2 - 52) := rfl

/-- A multiple of a power of two counted on the grid of a smaller power. -/
theorem two_pow_mul_eq (den : ℕ) {s k : ℕ} (h : s ≤ k) :
    2 ^ k * den = 2 ^ (k - s) * (den * 2 ^ s) := by
  rw [← Nat.pow_sub_mul_pow 2 h]
  ring

/-- The power of two above a quotient is a bound of its rounding. -/
theorem roundUnits_le_two_pow (num : ℕ) {den : ℕ} (hden : 0 < den) :
    roundUnits num den ≤ 2 ^ ((num / den).log2 + 1) := by
  rw [roundUnits_eq]
  set L := (num / den).log2
  have hs : L - 52 ≤ L + 1 := by omega
  have hnum : num ≤ 2 ^ (L + 1) * den :=
    ((Nat.div_lt_iff_lt_mul hden).1 Nat.lt_log2_self).le
  rw [two_pow_mul_eq den hs] at hnum
  rw [← Nat.pow_sub_mul_pow 2 hs]
  exact Nat.mul_le_mul_right _ (roundHalfEven_le_of_le_mul (by positivity) hnum)

/-- The power of two below a quotient is a bound of its rounding. -/
theorem two_pow_le_roundUnits {num den : ℕ} (hden : 0 < den) (hq : num / den ≠ 0) :
    2 ^ (num / den).log2 ≤ roundUnits num den := by
  rw [roundUnits_eq]
  set L := (num / den).log2
  have hs : L - 52 ≤ L := by omega
  have hnum : 2 ^ L * den ≤ num :=
    (Nat.le_div_iff_mul_le hden).1 (Nat.log2_self_le hq)
  rw [two_pow_mul_eq den hs] at hnum
  rw [← Nat.pow_sub_mul_pow 2 hs]
  exact Nat.mul_le_mul_right _ (le_roundHalfEven_of_mul_le (by positivity) hnum)

/-- **Rounding to 53 significant bits is monotone in the numerator.** -/
theorem roundUnits_mono {num num' den : ℕ} (hden : 0 < den) (h : num ≤ num') :
    roundUnits num den ≤ roundUnits num' den := by
  have hdiv : num / den ≤ num' / den := Nat.div_le_div_right h
  rcases lt_or_ge (num / den).log2 (num' / den).log2 with hlt | hge
  · have hq : num' / den ≠ 0 := by
      intro h0
      rw [h0, Nat.log2_zero] at hlt
      omega
    calc roundUnits num den ≤ 2 ^ ((num / den).log2 + 1) := roundUnits_le_two_pow num hden
      _ ≤ 2 ^ (num' / den).log2 := Nat.pow_le_pow_right (by omega) hlt
      _ ≤ roundUnits num' den := two_pow_le_roundUnits hden hq
  · -- exponents grow with the quotient, so both are rounded on the same grid
    have hle : (num / den).log2 ≤ (num' / den).log2 := by
      rcases eq_or_ne (num / den) 0 with h0 | h0
      · rw [h0, Nat.log2_zero]
        omega
      · have h0' : num' / den ≠ 0 := ((Nat.pos_of_ne_zero h0).trans_le hdiv).ne'
        exact (Nat.le_log2 h0').2 ((Nat.log2_self_le h0).trans hdiv)
    simp only [roundUnits_eq, le_antisymm hle hge]
    exact Nat.mul_le_mul_right _ (roundHalfEven_mono _ h)

/-- A power of two has one significant bit and is not rounded. -/
theorem roundUnits_mul_two_pow (k : ℕ) {den : ℕ} (hden : 0 < den) :
    roundUnits (den * 2 ^ k) den = 2 ^ k := by
  have hs : k - 52 ≤ k := by omega
  rw [Nat.mul_comm, roundUnits_eq, Nat.mul_div_cancel _ hden, Nat.log2_two_pow,
    two_pow_mul_eq den hs, roundHalfEven_mul_self _ (by positivity), Nat.pow_sub_mul_pow 2 hs]

/-! ## To the nearest double -/

/-- **A number over itself is one.** -/
theorem ofRatio_self {n : ℕ} (hn : 0 < n) : ofRatio n n = one := by
  have hunits : roundUnits (n * unitsPerOne) n = unitsPerOne := by
    unfold unitsPerOne
    generalize 1074 = k
    exact roundUnits_mul_two_pow k hn
  have hlimit : unitsPerOne < limit := by
    unfold unitsPerOne limit
    generalize 1074 = k
    exact Nat.pow_lt_pow_right (by omega) (by omega)
  simp only [ofRatio, ofUnits, hunits, if_pos hlimit, one]

/-- A quotient that is below a bound is below it with a smaller numerator too. -/
theorem lt_of_ofRatio_lt {num num' den : ℕ} {bound : Double} (hden : 0 < den) (h : num ≤ num')
    (hlt : (ofRatio num' den).lt bound = true) : (ofRatio num den).lt bound = true := by
  have hunits : roundUnits (num * unitsPerOne) den ≤ roundUnits (num' * unitsPerOne) den :=
    roundUnits_mono hden (Nat.mul_le_mul_right _ h)
  simp only [ofRatio, ofUnits] at hlt ⊢
  by_cases hfin : roundUnits (num' * unitsPerOne) den < limit
  · rw [if_pos hfin] at hlt
    rw [if_pos (hunits.trans_lt hfin)]
    cases bound with
    | nan => simp [lt] at hlt
    | infinite negative => simpa [lt] using hlt
    | finite negative units =>
      simp only [lt, signed, Bool.false_eq_true, if_false, decide_eq_true_eq] at hlt ⊢
      omega
  · -- an infinite quotient is below nothing
    rw [if_neg hfin] at hlt
    cases bound <;> simp [lt] at hlt

theorem ofRatio_ne_nan (num den : ℕ) : ofRatio num den ≠ nan := by
  simp only [ofRatio, ofUnits]
  split_ifs <;> simp

/-- The weak order of numbers; nothing is at most or at least `nan`. -/
def le (x y : Double) : Bool :=
  x != .nan && y != .nan && !y.lt x

/-- A number that is not below a bound is at least the bound, if that is a number. -/
theorem lt_eq_false_iff {x : Double} (hx : x ≠ nan) (bound : Double) :
    x.lt bound = false ↔ (bound ≠ nan → bound.le x = true) := by
  by_cases hbound : bound = nan
  · subst hbound
    cases x <;> simp [lt]
  · simp [le, hx, hbound]

end SmellScan.Double
