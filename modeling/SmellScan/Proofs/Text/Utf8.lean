import Mathlib.Data.List.Basic
import Mathlib.Tactic.IntervalCases
import SmellScan.Text.Utf8

/-!
# Bytes are read as they are written

A character is written as one to four bytes. The first says how many follow and allows for a least
and a greatest value of the second, so that each character has one way to be written; all others
carry six bits. The bounds are met by what is written (`beginByte_three`, `beginByte_four`), hence
the reader owes nothing behind a character and gives it back (`decodeFrom_utf8EncodeChar`).
-/

namespace SmellScan.Text

/-- Characters have numbers on either side of the surrogates. -/
theorem toNat_valid (c : Char) : c.toNat < 0xD800 ∨ 0xDFFF < c.toNat ∧ c.toNat < 0x110000 := by
  have h := c.valid
  simp only [UInt32.isValidChar, Nat.isValidChar] at h
  exact h

theorem decodeFrom_ofNat {b : ℕ} (hb : b < 256) (p : Pending) (rest : List UInt8) :
    decodeFrom p (UInt8.ofNat b :: rest) =
      (stepByte b p).1 ++ decodeFrom (stepByte b p).2 rest := by
  have hmod : b % 2 ^ 8 = b := Nat.mod_eq_of_lt hb
  cases p <;> simp only [decodeFrom, UInt8.toNat_ofNat', hmod]

/-! ## Bytes of six bits -/

section Tails

variable {bits d least greatest : ℕ} (hd : d < 64) (hleast : least ≤ d + 128)
  (hgreatest : d + 128 ≤ greatest) (rest : List UInt8)
include hd hleast hgreatest

/-- The last byte of a character completes it. -/
theorem decodeFrom_last :
    decodeFrom (.owing bits 1 least greatest) (UInt8.ofNat (d + 128) :: rest) =
      Char.ofNat (bits * 64 + d) :: decodeFrom .clear rest := by
  rw [decodeFrom_ofNat (by omega)]
  simp [stepByte, hleast, hgreatest]

/-- A byte before the last adds its bits. -/
theorem decodeFrom_next (owed : ℕ) :
    decodeFrom (.owing bits (owed + 2) least greatest) (UInt8.ofNat (d + 128) :: rest) =
      decodeFrom (.owing (bits * 64 + d) (owed + 1) 0x80 0xBF) rest := by
  rw [decodeFrom_ofNat (by omega)]
  simp [stepByte, hleast, hgreatest]

end Tails

/-! ## First bytes -/

theorem beginByte_one {n : ℕ} (hn : n ≤ 0x7F) : beginByte n = ([Char.ofNat n], .clear) := by
  simp [beginByte, Nat.lt_succ_of_le hn]

theorem beginByte_two {n : ℕ} (hlow : 2 ≤ n) (hn : n < 32) :
    beginByte (n + 192) = ([], .owing n 1 0x80 0xBF) := by
  have h₁ : ¬n + 192 < 128 := by omega
  have h₂ : 194 ≤ n + 192 ∧ n + 192 ≤ 223 := by omega
  simp [beginByte, h₁, h₂]

/-- The second of three bytes keeps clear of what two bytes can write and of surrogates. -/
theorem beginByte_three {n d : ℕ} (hn : n < 16) (hd : d < 64) (hlow : n = 0 → 32 ≤ d)
    (hhigh : n = 13 → d < 32) :
    ∃ least greatest, beginByte (n + 224) = ([], .owing n 2 least greatest) ∧
      least ≤ d + 128 ∧ d + 128 ≤ greatest := by
  by_cases h₀ : n = 0
  · exact ⟨0xA0, 0xBF, by rw [h₀]; rfl, by omega, by omega⟩
  by_cases h₁₃ : n = 13
  · exact ⟨0x80, 0x9F, by rw [h₁₃]; rfl, by omega, by omega⟩
  refine ⟨0x80, 0xBF, ?_, by omega, by omega⟩
  interval_cases n <;> simp_all [beginByte]

/-- The second of four bytes keeps clear of what three bytes can write and of what lies beyond the
last character. -/
theorem beginByte_four {n d : ℕ} (hn : n < 5) (hd : d < 64) (hlow : n = 0 → 16 ≤ d)
    (hhigh : n = 4 → d < 16) :
    ∃ least greatest, beginByte (n + 240) = ([], .owing n 3 least greatest) ∧
      least ≤ d + 128 ∧ d + 128 ≤ greatest := by
  by_cases h₀ : n = 0
  · exact ⟨0x90, 0xBF, by rw [h₀]; rfl, by omega, by omega⟩
  by_cases h₄ : n = 4
  · exact ⟨0x80, 0x8F, by rw [h₄]; rfl, by omega, by omega⟩
  refine ⟨0x80, 0xBF, ?_, by omega, by omega⟩
  interval_cases n <;> simp_all [beginByte]

/-! ## Characters -/

/-- **A character is read back from its bytes**, whatever follows them. -/
theorem decodeFrom_utf8EncodeChar (c : Char) (rest : List UInt8) :
    decodeFrom .clear (String.utf8EncodeChar c ++ rest) = c :: decodeFrom .clear rest := by
  have hvalid := toNat_valid c
  have hc : Char.ofNat c.toNat = c := Char.ofNat_toNat c
  simp only [String.utf8EncodeChar, Char.toNat_val]
  generalize c.toNat = n at hvalid hc ⊢
  split_ifs with h₁ h₂ h₃
  · rw [List.singleton_append, decodeFrom_ofNat (by omega)]
    simp only [stepByte, beginByte_one h₁, hc, List.singleton_append]
  · have hbits : n / 64 % 32 * 64 + n % 64 = n := by omega
    simp only [List.cons_append, List.nil_append]
    rw [decodeFrom_ofNat (by omega)]
    simp only [stepByte, beginByte_two (by omega : 2 ≤ n / 64 % 32) (by omega), List.nil_append]
    rw [decodeFrom_last (by omega) (by omega) (by omega), hbits, hc]
  · have hbits : (n / 4096 % 16 * 64 + n / 64 % 64) * 64 + n % 64 = n := by omega
    obtain ⟨least, greatest, hbegin, hleast, hgreatest⟩ :=
      beginByte_three (n := n / 4096 % 16) (d := n / 64 % 64) (by omega) (by omega) (by omega)
        (by omega)
    simp only [List.cons_append, List.nil_append]
    rw [decodeFrom_ofNat (by omega)]
    simp only [stepByte, hbegin, List.nil_append]
    rw [decodeFrom_next (by omega) hleast hgreatest, decodeFrom_last (by omega) (by omega)
      (by omega), hbits, hc]
  · have hbits : ((n / 262144 % 8 * 64 + n / 4096 % 64) * 64 + n / 64 % 64) * 64 + n % 64 = n := by
      omega
    obtain ⟨least, greatest, hbegin, hleast, hgreatest⟩ :=
      beginByte_four (n := n / 262144 % 8) (d := n / 4096 % 64) (by omega) (by omega) (by omega)
        (by omega)
    simp only [List.cons_append, List.nil_append]
    rw [decodeFrom_ofNat (by omega)]
    simp only [stepByte, hbegin, List.nil_append]
    rw [decodeFrom_next (by omega) hleast hgreatest, decodeFrom_next (by omega) (by omega)
      (by omega), decodeFrom_last (by omega) (by omega) (by omega), hbits, hc]

/-- **A text is read back from its bytes.** -/
theorem decodeUtf8_encodeUtf8 (cs : List Char) : decodeUtf8 (encodeUtf8 cs) = cs := by
  rw [decodeUtf8, encodeUtf8]
  induction cs with
  | nil => rfl
  | cons c cs ih => rw [List.flatMap_cons, decodeFrom_utf8EncodeChar, ih]

end SmellScan.Text
