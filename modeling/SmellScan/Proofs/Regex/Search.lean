import Mathlib.Data.List.Forall2
import SmellScan.Proofs.Regex.Turns
import SmellScan.Proofs.Regex.Words

/-!
# Searching for words

A search tries the places of a text one after the other (`foundIn_iff`). What is tried there is said
by the characters that each piece goes over: a word goes over characters that spell it
(`isSome_runPart_literals`), and any characters over those of one line (`isSome_run_anyChars`). So a
word is found where it is spelled (`foundIn_word`).
-/

namespace SmellScan.Regex

variable {groups : List (Option Width)} {flags : Flags} {k : Cont} {s : Cursor}

/-- Characters spell a word, for a matcher with flags. -/
def Spells (flags : Flags) (word cs : List Char) : Prop :=
  List.Forall₂ (fun w c => flags.sameChar w.toNat c.toNat = true) word cs

/-- The cursor behind some characters, with a rest. -/
def Cursor.beyond (s : Cursor) (cs rest : List Char) : Cursor :=
  { s with before := cs.reverse ++ s.before, rest }

theorem Cursor.beyond_nil (s : Cursor) : s.beyond [] s.rest = s := rfl

theorem Cursor.beyond_beyond (s : Cursor) (cs cs' mid rest : List Char) :
    (s.beyond cs mid).beyond cs' rest = s.beyond (cs ++ cs') rest := by
  simp [beyond]

/-! ## Pieces -/

theorem isSome_step (test : ℕ → Bool) :
    (s.step test k).isSome ↔
      ∃ c rest, s.rest = c :: rest ∧ test c.toNat = true ∧ (k (s.beyond [c] rest)).isSome := by
  unfold Cursor.step
  cases hrest : s.rest with
  | nil => simp
  | cons c rest =>
    by_cases htest : test c.toNat = true
    · simp [htest, Cursor.beyond]
    · simp [htest]

/-- A word goes over characters that spell it. -/
theorem isSome_runPart_literals (word : List Char) (part : List Node) :
    (runPart groups (literals word ++ part) flags k s).isSome ↔
      ∃ cs rest, s.rest = cs ++ rest ∧ Spells flags word cs ∧
        (runPart groups part flags k (s.beyond cs rest)).isSome := by
  induction word generalizing s with
  | nil =>
    simp only [literals, List.map_nil, List.nil_append, Spells, List.forall₂_nil_left_iff]
    constructor
    · exact fun h => ⟨[], s.rest, rfl, rfl, h⟩
    · rintro ⟨_, rest, hrest, rfl, h⟩
      rwa [← show s.rest = rest from hrest] at h
  | cons w word ih =>
    have hrun : runPart groups (literals (w :: word) ++ part) flags k s =
        s.step (flags.sameChar w.toNat) (runPart groups (literals word ++ part) flags k) := rfl
    rw [hrun, isSome_step]
    simp only [ih, Cursor.beyond_beyond]
    constructor
    · rintro ⟨c, _, hc, hsame, cs, rest, rfl, hcs, h⟩
      exact ⟨c :: cs, rest, hc, .cons hsame hcs, h⟩
    · rintro ⟨_, rest, hrest, hspells, h⟩
      obtain ⟨c, cs, hsame, hcs, rfl⟩ := List.forall₂_cons_left_iff.1 hspells
      exact ⟨c, cs ++ rest, hrest, hsame, cs, rest, rfl, hcs, h⟩

/-- The anchor at the end of a pattern holds before the end of the text and before a line feed that
ends it. -/
theorem isSome_runPart_stop (hflags : .multiline ∉ flags) :
    (runPart groups [.anchor .stop] flags k s).isSome ↔
      (s.rest = [] ∨ s.rest = ['\n']) ∧ (k s).isSome := by
  have hrun : runPart groups [.anchor .stop] flags k s =
      if s.meets flags .stop = true then k s else none := rfl
  have hmeets : s.meets flags .stop = true ↔ s.rest = [] ∨ s.rest = ['\n'] := by
    simp [Cursor.meets, hflags]
  rw [hrun, ← hmeets]
  by_cases h : s.meets flags .stop = true <;> simp [h]

theorem isSome_orElse_iff {α : Type} (a b : Option α) :
    (a.orElse fun _ => b).isSome ↔ a.isSome ∨ b.isSome := by
  cases a <;> simp

/-- One step of a greedy run over the characters of a line: one more, or what is behind. -/
theorem isSome_repeated_any (hflags : .dotAll ∉ flags) {last : Option ℕ}
    (hlast : last ≠ some s.place) :
    (repeated (runPart groups [.any] flags) true k none last s).isSome ↔
      (∃ c rest, s.rest = c :: rest ∧ c ≠ '\n' ∧
        (repeated (runPart groups [.any] flags) true k none (some s.place)
          (s.beyond [c] rest)).isSome) ∨ (k s).isSome := by
  have hturn : mayTurn none last s = true := by simpa [mayTurn] using hlast
  have hline (c : Char) : (flags.contains .dotAll || c.toNat != '\n'.toNat) = true ↔ c ≠ '\n' := by
    have hcode : c.toNat = '\n'.toNat ↔ c = '\n' :=
      ⟨fun h => Char.ext (UInt32.toNat_inj.1 h), congrArg Char.toNat⟩
    rw [Bool.or_eq_true, List.contains_iff_mem, bne_iff_ne, ne_eq, hcode]
    exact or_iff_right hflags
  have hrun (k : Cont) : runPart groups [.any] flags k s =
      s.step (fun n => flags.contains .dotAll || n != '\n'.toNat) k := rfl
  rw [repeated_eq (forward_runPart groups _ _)]
  simp only [if_true, hturn, hrun, Option.map_none]
  rw [isSome_orElse_iff, isSome_step]
  simp only [hline]

theorem isSome_repeated_anyChars (hflags : .dotAll ∉ flags) {last : Option ℕ}
    (hlast : last ≠ some s.place) :
    (repeated (runPart groups [.any] flags) true k none last s).isSome ↔
      ∃ cs rest, s.rest = cs ++ rest ∧ '\n' ∉ cs ∧ (k (s.beyond cs rest)).isSome := by
  induction hleft : s.rest generalizing s last with
  | nil =>
    rw [isSome_repeated_any hflags hlast, hleft]
    have hhere := s.beyond_nil
    rw [hleft] at hhere
    simp [hhere]
  | cons c left ih =>
    have hnext : (some s.place : Option ℕ) ≠ some (s.beyond [c] left).place := by
      simp [Cursor.place, Cursor.beyond]
    have hbelow := ih (s := s.beyond [c] left) hnext rfl
    have hhere := s.beyond_nil
    rw [hleft] at hhere
    rw [isSome_repeated_any hflags hlast, hleft]
    constructor
    · rintro (⟨_, _, heq, hc, h⟩ | h)
      · cases heq
        obtain ⟨cs, rest, rfl, hcs, h⟩ := hbelow.1 h
        rw [Cursor.beyond_beyond] at h
        exact ⟨c :: cs, rest, rfl, by simp [hcs, Ne.symm hc], h⟩
      · exact ⟨[], c :: left, rfl, by simp, by rwa [hhere]⟩
    · rintro ⟨cs, rest, heq, hcs, h⟩
      cases cs with
      | nil =>
        obtain rfl : c :: left = rest := heq
        exact .inr (by rwa [hhere] at h)
      | cons d cs =>
        obtain ⟨rfl, rfl⟩ := List.cons.inj heq
        obtain ⟨hc, hcs⟩ := not_or.1 (List.mem_cons.not.1 hcs)
        refine .inl ⟨c, cs ++ rest, rfl, Ne.symm hc, hbelow.2 ⟨cs, rest, rfl, hcs, ?_⟩⟩
        rwa [Cursor.beyond_beyond]

/-- Characters of one line, as many as there are, and then fewer. -/
theorem isSome_run_anyChars (hflags : .dotAll ∉ flags) :
    (Node.run groups (.loop .greedy 0 none [.any]) flags k s).isSome ↔
      ∃ cs rest, s.rest = cs ++ rest ∧ '\n' ∉ cs ∧ (k (s.beyond cs rest)).isSome :=
  isSome_repeated_anyChars hflags (by simp)

/-! ## Searches -/

theorem searchFrom_iff {m : Cont} {before rest : List Char} :
    searchFrom m before rest = true ↔ ∃ skipped left, rest = skipped ++ left ∧
      (m { before := skipped.reverse ++ before, rest := left }).isSome := by
  induction rest generalizing before with
  | nil => simp [searchFrom]
  | cons c rest ih =>
    rw [searchFrom, Bool.or_eq_true, ih]
    constructor
    · rintro (h | ⟨skipped, left, rfl, h⟩)
      · exact ⟨[], c :: rest, rfl, h⟩
      · exact ⟨c :: skipped, left, rfl, by simpa using h⟩
    · rintro ⟨skipped, left, heq, h⟩
      cases skipped with
      | nil =>
        obtain rfl : c :: rest = left := heq
        exact .inl h
      | cons d skipped =>
        obtain ⟨rfl, rfl⟩ := List.cons.inj heq
        exact .inr ⟨skipped, left, rfl, by simpa using h⟩

/-- **A search tries all places**: a pattern is found if it matches behind some characters. -/
theorem foundIn_iff {p : Pattern} {text : String} :
    p.foundIn text = true ↔ ∃ skipped left, text.toList = skipped ++ left ∧
      (runPart p.groups p.part p.flags some
        { before := skipped.reverse, rest := left }).isSome := by
  rw [Pattern.foundIn, searchFrom_iff]
  simp only [List.append_nil]

/-- **A word is found where it is spelled.** -/
theorem foundIn_word {word : List Char} {text : String} :
    (Pattern.mk (literals word) flags groups).foundIn text = true ↔
      ∃ skipped cs rest, text.toList = skipped ++ (cs ++ rest) ∧ Spells flags word cs := by
  rw [foundIn_iff]
  constructor
  · rintro ⟨skipped, left, htext, h⟩
    rw [← List.append_nil (literals word), isSome_runPart_literals] at h
    obtain ⟨cs, rest, hleft, hspells, -⟩ := h
    exact ⟨skipped, cs, rest, htext.trans (congrArg _ hleft), hspells⟩
  · rintro ⟨skipped, cs, rest, htext, hspells⟩
    refine ⟨skipped, cs ++ rest, htext, ?_⟩
    rw [← List.append_nil (literals word), isSome_runPart_literals]
    exact ⟨cs, rest, rfl, hspells, rfl⟩

end SmellScan.Regex
