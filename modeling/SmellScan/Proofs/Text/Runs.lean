import Mathlib.Data.List.Basic
import Mathlib.Data.List.TakeWhile
import SmellScan.Text.Blank
import SmellScan.Text.Word

/-!
# Runs of blanks and of word characters

The patterns of the checks are made of fixed characters, gaps and names. A gap is a run of blanks,
which may be empty, and a name a run of word characters, which may not. No character is both a blank
and a word character (`isWord_eq_false_of_isBlank`), so what is read as a gap or as a name ends
where the other begins, and there is one way to read it.
-/

namespace SmellScan.Text

/-- Blanks and nothing else. -/
def IsGap (cs : List Char) : Prop :=
  ∀ c ∈ cs, isBlank c = true

/-- Word characters and nothing else, at least one. -/
def IsName (cs : List Char) : Prop :=
  cs ≠ [] ∧ ∀ c ∈ cs, isWord c = true

/-- The text goes on with no word character. -/
def EndsName (cs : List Char) : Prop :=
  ∀ c, cs.head? = some c → isWord c = false

instance (cs : List Char) : Decidable (IsGap cs) :=
  decidable_of_iff (cs.all isBlank = true) List.all_eq_true

instance (cs : List Char) : Decidable (IsName cs) :=
  decidable_of_iff (cs ≠ [] ∧ cs.all isWord = true) (and_congr_right' List.all_eq_true)

variable {c : Char} {w name cs : List Char}

/-- The blanks as ranges, to compare them with those of the word characters. -/
def blankRanges : Ranges :=
  [(0x09, 0x0D), (0x1C, 0x20), (0x85, 0x85), (0xA0, 0xA0), (0x1680, 0x1680), (0x2000, 0x200A),
    (0x2028, 0x2029), (0x202F, 0x202F), (0x205F, 0x205F), (0x3000, 0x3000)]

/-- The word characters as ranges, those of ASCII first. -/
def wordRanges : Ranges :=
  (0x30, 0x39) :: (0x41, 0x5A) :: (0x5F, 0x5F) :: (0x61, 0x7A) :: alphanumericRanges

/-- No range of blanks meets a range of word characters. -/
theorem apart_ranges : (blankRanges.all fun r => wordRanges.all fun s =>
    Nat.blt s.2 r.1 || Nat.blt r.2 s.1) = true := by
  decide +kernel

theorem exists_range_of_isBlank (h : isBlank c = true) :
    ∃ r ∈ blankRanges, r.1 ≤ c.toNat ∧ c.toNat ≤ r.2 := by
  simp only [isBlank, Bool.or_eq_true, Bool.and_eq_true, decide_eq_true_eq, beq_iff_eq] at h
  simp only [blankRanges, List.exists_mem_cons_iff, List.not_mem_nil, false_and, exists_false]
  omega

theorem exists_range_of_isWord (h : isWord c = true) :
    ∃ s ∈ wordRanges, s.1 ≤ c.toNat ∧ c.toNat ≤ s.2 := by
  simp only [wordRanges, List.exists_mem_cons_iff]
  rw [isWord, Bool.or_eq_true, beq_iff_eq] at h
  rcases h with rfl | h
  · exact Or.inr (Or.inr (Or.inl (by decide)))
  · rw [isAlphanumeric] at h
    split_ifs at h with hascii
    · simp only [Bool.or_eq_true, Bool.and_eq_true, decide_eq_true_eq] at h
      omega
    · simp only [Ranges.contains, List.any_eq_true, Bool.and_eq_true, decide_eq_true_eq] at h
      exact Or.inr (Or.inr (Or.inr (Or.inr h)))

/-- **A blank is no word character.** -/
theorem isWord_eq_false_of_isBlank (h : isBlank c = true) : isWord c = false := by
  by_contra hword
  obtain ⟨r, hr, hblank⟩ := exists_range_of_isBlank h
  obtain ⟨s, hs, hrange⟩ := exists_range_of_isWord (eq_true_of_ne_false hword)
  have hapart := List.all_eq_true.1 (List.all_eq_true.1 apart_ranges r hr) s hs
  rw [Bool.or_eq_true, Nat.blt_eq, Nat.blt_eq] at hapart
  omega

/-! ## Gaps -/

theorem IsGap.not_mem (hw : IsGap w) (hc : isBlank c = false) : c ∉ w := by
  intro hmem
  rw [hw c hmem] at hc
  cases hc

theorem IsGap.trimLeft_append (hw : IsGap w) (cs : List Char) :
    trimLeft (w ++ cs) = trimLeft cs :=
  List.dropWhile_append_of_pos hw

theorem trimLeft_cons (hc : isBlank c = false) (cs : List Char) :
    trimLeft (c :: cs) = c :: cs :=
  List.dropWhile_cons_of_neg (by simp [hc])

theorem trimRight_cons (hc : isBlank c = false) (cs : List Char) :
    trimRight (c :: cs) = c :: trimRight cs := by
  rw [trimRight, trimRight, List.reverse_cons, List.dropWhile_append]
  split_ifs with h
  · simp [hc, List.isEmpty_iff.1 h]
  · simp

/-- Every text is a gap and what is left of it. -/
theorem exists_gap (cs : List Char) : ∃ w, IsGap w ∧ cs = w ++ trimLeft cs :=
  ⟨cs.takeWhile isBlank, fun _ => List.mem_takeWhile_imp, List.takeWhile_append_dropWhile.symm⟩

/-- What is left begins with ink. -/
theorem isBlank_eq_false_of_trimLeft (h : trimLeft cs = c :: w) : isBlank c = false := by
  have hhead := List.head?_dropWhile_not isBlank cs
  change cs.dropWhile isBlank = c :: w at h
  rwa [h] at hhead

/-! ## Names -/

theorem IsName.not_mem (hname : IsName name) (hc : isWord c = false) : c ∉ name := by
  intro hmem
  rw [hname.2 c hmem] at hc
  cases hc

/-- A name has a first character, which is no blank. -/
theorem IsName.exists_cons (hname : IsName name) :
    ∃ c rest, name = c :: rest ∧ isWord c = true ∧ isBlank c = false := by
  obtain ⟨c, rest, rfl⟩ := List.exists_cons_of_ne_nil hname.1
  have hc := hname.2 c List.mem_cons_self
  refine ⟨c, rest, rfl, hc, ?_⟩
  by_contra hblank
  rw [isWord_eq_false_of_isBlank (eq_true_of_ne_false hblank)] at hc
  cases hc

/-- Every text that begins with a word character is a name and what is left of it. -/
theorem exists_name (hc : isWord c = true) (cs : List Char) :
    ∃ name, IsName name ∧ c :: cs = name ++ cs.dropWhile isWord :=
  ⟨c :: cs.takeWhile isWord,
    ⟨List.cons_ne_nil _ _, List.forall_mem_cons.2 ⟨hc, fun _ => List.mem_takeWhile_imp⟩⟩,
    by rw [List.cons_append, List.takeWhile_append_dropWhile]⟩

theorem IsName.trimLeft_append (hname : IsName name) (cs : List Char) :
    trimLeft (name ++ cs) = name ++ cs := by
  obtain ⟨c, rest, rfl, -, hc⟩ := hname.exists_cons
  exact trimLeft_cons hc (rest ++ cs)

/-- A name ends where a gap begins, and behind an empty one at a character that is in no word. -/
theorem IsGap.endsName_append (hw : IsGap w) (hc : isWord c = false) (cs : List Char) :
    EndsName (w ++ c :: cs) := by
  intro d hd
  cases w with
  | nil =>
    obtain rfl := Option.some.inj hd
    exact hc
  | cons b w =>
    obtain rfl := Option.some.inj hd
    exact isWord_eq_false_of_isBlank (hw b List.mem_cons_self)

theorem EndsName.dropWhile_eq (hcs : EndsName cs) : cs.dropWhile isWord = cs := by
  cases cs with
  | nil => rfl
  | cons c cs => exact List.dropWhile_cons_of_neg (by simp [hcs c rfl])

/-- A run that goes up to the first `c` takes in a text without one. -/
theorem forall_ne_of_not_mem (h : c ∉ cs) : ∀ d ∈ cs, decide (d ≠ c) = true := by
  intro d hd
  rw [decide_eq_true_eq]
  rintro rfl
  exact h hd

end SmellScan.Text
