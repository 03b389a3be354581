import Mathlib.Tactic.IntervalCases
import SmellScan.Json.Parser
import SmellScan.Json.Printer
import SmellScan.Proofs.Text.Utf8

/-!
# Strings are read as they are written

A character is written as itself, as an escape of one letter or as an escape by number, which for a
character above sixteen bits is that of a surrogate pair. Each way is read as units that spell the
character (`readUnits_writeChar`), and units that spell characters are joined to them
(`joinSurrogates_append`), so reading inverts the text of every string (`readString_flatMap`),
whichever characters stand for themselves, if controls do not.
-/

namespace SmellScan.Json

/-! ## Units of characters -/

/-- The units spell the character: alone or, above sixteen bits, as a surrogate pair. -/
def Spells (c : Char) (us : List ℕ) : Prop :=
  us = [c.toNat] ∨ 0x10000 ≤ c.toNat ∧
    us = [0xD800 + (c.toNat - 0x10000) / 0x400, 0xDC00 + (c.toNat - 0x10000) % 0x400]

/-- Units that spell a character are joined to it, whatever units follow. -/
theorem joinSurrogates_append {c : Char} {us : List ℕ} (h : Spells c us) (vs : List ℕ) :
    joinSurrogates (us ++ vs) = c :: joinSurrogates vs := by
  have hvalid := Text.toNat_valid c
  rcases h with rfl | ⟨hc, rfl⟩
  · have hnot : ¬(0xD800 ≤ c.toNat ∧ c.toNat ≤ 0xDFFF) := by omega
    have hhigh : ¬(0xD800 ≤ c.toNat ∧ c.toNat ≤ 0xDBFF) := by omega
    cases vs with
    | nil => simp [joinSurrogates, hnot]
    | cons v vs => simp [joinSurrogates, hnot, hhigh]
  · set n := c.toNat - 0x10000 with hn
    have hhigh : 0xD800 + n / 0x400 ≤ 0xDBFF := by omega
    have hlow : 0xDC00 + n % 0x400 ≤ 0xDFFF := by omega
    have hjoin : 0x10000 + n / 0x400 * 0x400 + n % 0x400 = c.toNat := by omega
    simp [joinSurrogates, hhigh, hlow, hjoin]

/-! ## Escapes -/

theorem hexValue?_hexDigit (n : ℕ) : hexValue? (hexDigit n) = some (n % 16) := by
  have hlt : n % 16 < 16 := Nat.mod_lt n (by omega)
  unfold hexDigit
  interval_cases n % 16 <;> rfl

theorem readUnits_unitEscape {n : ℕ} (hn : n < 0x10000) (rest : List Char) :
    readUnits .plain (unitEscape n ++ rest) = consUnit n (readUnits .plain rest) := by
  have hvalue : 16 * (16 * (16 * (n / 4096 % 16) + n / 256 % 16) + n / 16 % 16) + n % 16 = n := by
    omega
  simp [unitEscape, readUnits, hexValue?_hexDigit, hvalue]

theorem readUnits_shortEscape {c e : Char} (h : shortEscape? c = some e) (rest : List Char) :
    readUnits .plain ('\\' :: e :: rest) = consUnit c.toNat (readUnits .plain rest) := by
  unfold shortEscape? at h
  split_ifs at h <;> subst c <;> obtain rfl := Option.some.inj h <;> rfl

theorem readUnits_charEscape (c : Char) :
    ∃ us, Spells c us ∧ ∀ rest,
      readUnits .plain (charEscape c ++ rest) = us.foldr consUnit (readUnits .plain rest) := by
  have hvalid := Text.toNat_valid c
  simp only [charEscape]
  split_ifs with hc
  · exact ⟨[c.toNat], .inl rfl, readUnits_unitEscape hc⟩
  · refine ⟨_, .inr ⟨by omega, rfl⟩, fun rest => ?_⟩
    rw [List.append_assoc, readUnits_unitEscape (by omega), readUnits_unitEscape (by omega)]
    rfl

/-! ## Strings -/

theorem writeString_append (plain : Char → Bool) (s : String) (rest : List Char) :
    writeString plain s ++ rest = '"' :: (s.toList.flatMap (writeChar plain) ++ '"' :: rest) := by
  simp [writeString]

theorem foldr_consUnit (us vs : List ℕ) (rest : List Char) :
    us.foldr consUnit (some (vs, rest)) = some (us ++ vs, rest) := by
  induction us with
  | nil => rfl
  | cons u us ih => rw [List.foldr_cons, ih, consUnit, List.cons_append]

section Plain

variable {plain : Char → Bool} (hplain : ∀ c, plain c = true → 0x20 ≤ c.toNat)
include hplain

/-- A character is read as units that spell it, however it is written. -/
theorem readUnits_writeChar (c : Char) :
    ∃ us, Spells c us ∧ ∀ rest,
      readUnits .plain (writeChar plain c ++ rest) = us.foldr consUnit (readUnits .plain rest) := by
  unfold writeChar
  split
  case h_1 e he => exact ⟨[c.toNat], .inl rfl, readUnits_shortEscape he⟩
  case h_2 he =>
    split_ifs with hc
    · refine ⟨[c.toNat], .inl rfl, fun rest => ?_⟩
      have hquote : c ≠ '"' := by
        rintro rfl
        cases he
      have hslash : c ≠ '\\' := by
        rintro rfl
        cases he
      have hcontrol : ¬c.toNat < 0x20 := by
        have := hplain c hc
        omega
      simp [readUnits, hquote, hslash, hcontrol]
    · exact readUnits_charEscape c

/-- The characters of a string are read as units that are joined to them. -/
theorem readUnits_flatMap (cs rest : List Char) :
    ∃ us, joinSurrogates us = cs ∧
      readUnits .plain (cs.flatMap (writeChar plain) ++ '"' :: rest) = some (us, rest) := by
  induction cs with
  | nil => exact ⟨[], rfl, rfl⟩
  | cons c cs ih =>
    obtain ⟨us, hspells, hread⟩ := readUnits_writeChar hplain c
    obtain ⟨vs, hjoin, hrest⟩ := ih
    refine ⟨us ++ vs, by rw [joinSurrogates_append hspells, hjoin], ?_⟩
    rw [List.flatMap_cons, List.append_assoc, hread, hrest, foldr_consUnit]

/-- **Every string is read as it is written**, its opening quote apart. -/
theorem readString_flatMap (s : String) (rest : List Char) :
    readString (s.toList.flatMap (writeChar plain) ++ '"' :: rest) = some (s, rest) := by
  obtain ⟨us, hjoin, hread⟩ := readUnits_flatMap hplain s.toList rest
  simp only [readString, hread, Option.map_some, hjoin, String.ofList_toList]

end Plain

end SmellScan.Json
