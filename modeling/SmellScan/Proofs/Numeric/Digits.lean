import Mathlib.Algebra.Order.Ring.Nat
import Mathlib.Data.List.DropRight
import SmellScan.Numeric.Decimal
import SmellScan.Numeric.Digits

/-!
# Digits of numbers

`digitsValue` inverts the decimal digits of a number (`digitsValue_toDigits`). Zeros in front of
digits do not change what they spell and zeros behind them multiply it by powers of ten.

The significant digits of a decimal are its digits up to some zeros at the end
(`exists_toDigits_eq_significant`), and begin with another digit than zero.
-/

namespace SmellScan

theorem isDigit_of_mem_toDigits {n : ℕ} {c : Char} (hc : c ∈ Nat.toDigits 10 n) :
    isDigit c = true :=
  Nat.isDigit_of_mem_toDigits (by omega) (by omega) hc

@[simp] theorem isDigit_zero : isDigit '0' = true := rfl

@[simp] theorem digitsValue_toDigits (n : ℕ) : digitsValue (Nat.toDigits 10 n) = n :=
  Nat.ofDigitChars_ten_toDigits

theorem digitsValue_zeros_append (k : ℕ) (cs : List Char) :
    digitsValue (List.replicate k '0' ++ cs) = digitsValue cs := by
  change Nat.ofDigitChars 10 _ 0 = Nat.ofDigitChars 10 _ 0
  rw [Nat.ofDigitChars_append, Nat.ofDigitChars_replicate_zero, Nat.mul_zero]

theorem digitsValue_append_zeros (cs : List Char) (k : ℕ) :
    digitsValue (cs ++ List.replicate k '0') = digitsValue cs * 10 ^ k := by
  change Nat.ofDigitChars 10 _ 0 = Nat.ofDigitChars 10 _ 0 * _
  rw [Nat.ofDigitChars_append, Nat.ofDigitChars_replicate_zero, Nat.mul_comm]

/-- The digits of a number above zero do not begin with a zero. -/
theorem head?_toDigits_ne {n : ℕ} (hn : 0 < n) : (Nat.toDigits 10 n).head? ≠ some '0' := by
  induction n using Nat.strong_induction_on with
  | _ n ih =>
    rcases Nat.lt_or_ge n 10 with hlt | hge
    · rw [Nat.toDigits_of_lt_base hlt]
      simp only [List.head?_cons, ne_eq, Option.some.injEq, Nat.digitChar_eq_zero]
      omega
    · rw [Nat.toDigits_of_base_le (by omega) hge, List.head?_append_of_ne_nil _ Nat.toDigits_ne_nil]
      exact ih (n / 10) (by omega) (by omega)

theorem lt_ten_pow_length (n : ℕ) : n < 10 ^ (Nat.toDigits 10 n).length :=
  (Nat.length_toDigits_le_iff (by omega) Nat.length_toDigits_pos).1 le_rfl

theorem ten_pow_length_le {n : ℕ} (hn : 0 < n) : 10 ^ ((Nat.toDigits 10 n).length - 1) ≤ n := by
  rcases Nat.eq_zero_or_pos ((Nat.toDigits 10 n).length - 1) with h | h
  · rw [h]
    exact hn
  · by_contra hlt
    have hlength := (Nat.length_toDigits_le_iff (by omega) h).2 (Nat.lt_of_not_le hlt)
    omega

/-- A factor `10 ^ k` appends `k` zeros. -/
theorem toDigits_mul_ten_pow {n : ℕ} (hn : 0 < n) (k : ℕ) :
    Nat.toDigits 10 (n * 10 ^ k) = Nat.toDigits 10 n ++ List.replicate k '0' := by
  induction k with
  | zero => simp
  | succ k ih =>
    have hpos : 0 < n * 10 ^ k := Nat.mul_pos hn (Nat.pow_pos (by omega))
    calc Nat.toDigits 10 (n * 10 ^ (k + 1))
        = Nat.toDigits 10 (10 * (n * 10 ^ k) + 0) := by
          rw [Nat.pow_succ, ← Nat.mul_assoc, Nat.mul_comm _ 10, Nat.add_zero]
      _ = Nat.toDigits 10 (n * 10 ^ k) ++ Nat.toDigits 10 0 :=
          (Nat.toDigits_append_toDigits (by omega) hpos (by omega)).symm
      _ = Nat.toDigits 10 n ++ List.replicate (k + 1) '0' := by
          rw [ih, Nat.toDigits_zero, List.replicate_succ', List.append_assoc]

namespace Decimal

theorem significant_eq {d : Decimal}
    (h : (Nat.toDigits 10 d.digits).rdropWhile (· == '0') ≠ []) :
    d.significant = (Nat.toDigits 10 d.digits).rdropWhile (· == '0') := by
  change ((Nat.toDigits 10 d.digits).reverse.dropWhile (· == '0')).reverse ≠ [] at h
  unfold significant
  split
  · contradiction
  · rfl

/-- The digits of a decimal above zero are its significant ones and zeros behind them. -/
theorem exists_toDigits_eq_significant {d : Decimal} (hd : 0 < d.digits) :
    ∃ k, Nat.toDigits 10 d.digits = d.significant ++ List.replicate k '0' := by
  -- the first digit is no zero, so something is kept
  have hkept : (Nat.toDigits 10 d.digits).rdropWhile (· == '0') ≠ [] := by
    intro hnil
    have hzero := List.rdropWhile_eq_nil_iff.1 hnil
    apply head?_toDigits_ne hd
    obtain ⟨c, rest, hcons⟩ :=
      List.exists_cons_of_ne_nil (Nat.toDigits_ne_nil (n := d.digits) (b := 10))
    have hc : c = '0' := by simpa using hzero c (by simp [hcons])
    rw [hcons, hc, List.head?_cons]
  refine ⟨((Nat.toDigits 10 d.digits).rtakeWhile (· == '0')).length, ?_⟩
  have hzeros := List.eq_replicate_of_mem fun c hc =>
    eq_of_beq (List.mem_rtakeWhile_imp (p := (· == '0')) (l := Nat.toDigits 10 d.digits) hc)
  rw [significant_eq hkept, ← hzeros, List.rdropWhile_append_rtakeWhile]

theorem significant_ne_nil (d : Decimal) : d.significant ≠ [] := by
  unfold significant
  split
  · simp
  · assumption

/-- The significant digits of a decimal above zero are digits, and the first is no zero. -/
theorem exists_significant_eq_cons {d : Decimal} (hd : 0 < d.digits) :
    ∃ c cs, d.significant = c :: cs ∧ c ≠ '0' ∧ ∀ x ∈ c :: cs, isDigit x = true := by
  obtain ⟨k, hk⟩ := exists_toDigits_eq_significant hd
  obtain ⟨c, cs, hcons⟩ := List.exists_cons_of_ne_nil d.significant_ne_nil
  refine ⟨c, cs, hcons, ?_, ?_⟩
  · rintro rfl
    exact head?_toDigits_ne hd (by rw [hk, hcons]; rfl)
  · intro x hx
    rw [← hcons] at hx
    exact isDigit_of_mem_toDigits (hk ▸ List.mem_append_left _ hx)

end Decimal

end SmellScan
