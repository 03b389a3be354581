import Mathlib.Data.List.Basic
import Mathlib.Data.List.Nodup
import Mathlib.Data.List.Pairwise
import SmellScan.Text.Search

/-!
# Scanning a text

The search for all matches takes the leftmost one, goes on behind it, and so passes over whatever
would overlap it. `IsScan` says without the search what such a list of matches is, given what
matches from where to where: the matches are apart, and whatever matches is in the list or begins
inside an earlier match of it. No two lists are scans of one text (`IsScan.unique`), and the search
gives the one that is, for every matcher that eats some of the text (`isScan_findAll`).
-/

namespace SmellScan.Text

variable {α : Type} {cs rest : List Char}

/-! ## Matchers -/

theorem stripStart?_eq_some {word : List Char} :
    stripStart? word cs = some rest ↔ cs = word ++ rest := by
  induction word generalizing cs with
  | nil => simp [stripStart?]
  | cons w word ih =>
    cases cs with
    | nil => simp [stripStart?]
    | cons c cs =>
      rw [stripStart?, List.cons_append, List.cons.injEq]
      split_ifs with hw
      · simp [ih, hw]
      · simp [Ne.symm hw]

/-- A word that the text does not begin with does not begin there and end behind a character that
is not in it. -/
theorem stripStart?_append_cons {word later : List Char} {c : Char} (hc : c ∉ word)
    (h : ¬word <+: later) (rest : List Char) : stripStart? word (later ++ c :: rest) = none := by
  cases hstrip : stripStart? word (later ++ c :: rest) with
  | none => rfl
  | some behind =>
    exfalso
    rcases List.append_eq_append_iff.1 (stripStart?_eq_some.1 hstrip) with
      ⟨tail, hword, htail⟩ | ⟨tail, hlater, -⟩
    · cases tail with
      | nil => exact h (by simp [hword])
      | cons d tail =>
        obtain ⟨rfl, -⟩ := List.cons.inj htail
        exact hc (by simp [hword])
    · exact h ⟨tail, hlater.symm⟩

/-- A word whose first character stands nowhere else in it does not begin before another one and end
inside it. -/
theorem stripStart?_append_head {word later : List Char} {c : Char} (hc : c ∉ word.tail)
    (hne : later ≠ []) (h : ¬word <+: later) (rest : List Char) :
    stripStart? word (later ++ c :: rest) = none := by
  obtain ⟨d, later, rfl⟩ := List.exists_cons_of_ne_nil hne
  cases word with
  | nil => exact absurd List.nil_prefix h
  | cons w word =>
    rw [List.cons_append, stripStart?]
    split_ifs with hw
    · exact stripStart?_append_cons hc (fun hword => h (List.cons_prefix_cons.2 ⟨hw, hword⟩)) rest
    · rfl

theorem upTo?_eq_some {stop : Char} {taken : List Char} :
    upTo? stop cs = some (taken, rest) ↔ stop ∉ taken ∧ cs = taken ++ stop :: rest := by
  induction cs generalizing taken rest with
  | nil => simp [upTo?]
  | cons c cs ih =>
    rw [upTo?]
    split_ifs with hc
    · subst hc
      cases taken with
      | nil => simp
      | cons d taken =>
        simp only [Option.some.injEq, Prod.mk.injEq, List.cons_append, List.cons.injEq,
          List.mem_cons, not_or, reduceCtorEq, false_and, false_iff]
        rintro ⟨⟨hne, -⟩, rfl, -⟩
        exact hne rfl
    · cases taken with
      | nil => simp [hc]
      | cons d taken =>
        simp only [Option.map_eq_some_iff, Prod.exists, Prod.mk.injEq, List.cons.injEq, ih,
          List.mem_cons, not_or, List.cons_append]
        constructor
        · rintro ⟨_, _, ⟨hnot, rfl⟩, ⟨rfl, rfl⟩, rfl⟩
          exact ⟨⟨Ne.symm hc, hnot⟩, rfl, rfl⟩
        · rintro ⟨⟨-, hnot⟩, rfl, rfl⟩
          exact ⟨taken, rest, ⟨hnot, rfl⟩, ⟨rfl, rfl⟩, rfl⟩

/-! ## The leftmost match -/

section

variable {m : List Char → Option α}

theorem findFirst?_of_eq_some {a : α} (h : m cs = some a) : findFirst? m cs = some a := by
  cases cs with
  | nil => exact h
  | cons c cs => rw [findFirst?, h]

/-- Where nothing matches the search goes on behind it. -/
theorem findFirst?_append {before : List Char}
    (h : ∀ later, later ≠ [] → later <:+ before → m (later ++ cs) = none) :
    findFirst? m (before ++ cs) = findFirst? m cs := by
  induction before with
  | nil => rfl
  | cons c before ih =>
    have hc : m (c :: (before ++ cs)) = none := h _ (List.cons_ne_nil c before) List.suffix_rfl
    rw [List.cons_append, findFirst?, hc]
    exact ih fun later hne hlater => h later hne (hlater.trans (List.suffix_cons c before))

end

/-! ## Matchers that read on -/

/-- What a matcher leaves is the end of the text, and it leaves less than all of it. -/
def Eats (m : List Char → Option (α × List Char)) : Prop :=
  ∀ cs a rest, m cs = some (a, rest) → ∃ eaten, eaten ≠ [] ∧ cs = eaten ++ rest

/-- A matcher matches in a text from one offset to another. -/
def SpansBy (m : List Char → Option (α × List Char)) (cs : List Char) (start : ℕ) (a : α)
    (stop : ℕ) : Prop :=
  start < stop ∧ stop ≤ cs.length ∧ m (cs.drop start) = some (a, cs.drop stop)

/-! ## Scans -/

/-- The matches in a text from the offset `first` on, from left to right and without overlap, where
`spans` says what matches from where to where. -/
structure IsScan (spans : ℕ → α → ℕ → Prop) (first : ℕ) (found : List (ℕ × α)) : Prop where
  sound : ∀ e ∈ found, first ≤ e.1 ∧ ∃ stop, spans e.1 e.2 stop
  apart : found.Pairwise fun e e' => ∀ stop, spans e.1 e.2 stop → stop ≤ e'.1
  complete : ∀ start a stop, first ≤ start → spans start a stop →
    (start, a) ∈ found ∨
      ∃ e ∈ found, e.1 < start ∧ ∃ stop', spans e.1 e.2 stop' ∧ start < stop'

section

variable {spans : ℕ → α → ℕ → Prop} {first : ℕ} {found found' : List (ℕ × α)}

/-- Where nothing matches any more the scan is at its end. -/
theorem isScan_nil (h : ∀ start a stop, first ≤ start → ¬spans start a stop) :
    IsScan spans first [] where
  sound := by simp
  apart := List.Pairwise.nil
  complete start a stop hfirst hspan := absurd hspan (h start a stop hfirst)

/-- Where nothing matches at an offset the scan goes on at the next one. -/
theorem IsScan.miss (hnone : ∀ a stop, ¬spans first a stop) (h : IsScan spans (first + 1) found) :
    IsScan spans first found where
  sound e he := by
    obtain ⟨hfirst, hspan⟩ := h.sound e he
    exact ⟨by omega, hspan⟩
  apart := h.apart
  complete start a stop hfirst hspan := by
    have hne : start ≠ first := by
      rintro rfl
      exact hnone a stop hspan
    exact h.complete start a stop (by omega) hspan

/-- Behind a match the scan goes on at its end. -/
theorem IsScan.hit {a : α} {stop : ℕ} (hspan : spans first a stop) (hlt : first < stop)
    (honly : ∀ b stop', spans first b stop' → b = a ∧ stop' = stop)
    (h : IsScan spans stop found) : IsScan spans first ((first, a) :: found) where
  sound := by
    refine List.forall_mem_cons.2 ⟨⟨Nat.le_refl _, stop, hspan⟩, fun e he => ?_⟩
    obtain ⟨hfirst, he⟩ := h.sound e he
    exact ⟨by omega, he⟩
  apart := by
    refine List.pairwise_cons.2 ⟨fun e he stop' hstop' => ?_, h.apart⟩
    obtain ⟨-, rfl⟩ := honly a stop' hstop'
    exact (h.sound e he).1
  complete start b stop' hfirst hstart := by
    rcases Nat.eq_or_lt_of_le hfirst with rfl | hafter
    · obtain ⟨rfl, -⟩ := honly b stop' hstart
      exact Or.inl List.mem_cons_self
    · by_cases hin : start < stop
      · exact Or.inr ⟨(first, a), List.mem_cons_self, hafter, stop, hspan, hin⟩
      · rcases h.complete start b stop' (by omega) hstart with hmem | ⟨e, he, hcovers⟩
        · exact Or.inl (List.mem_cons_of_mem _ hmem)
        · exact Or.inr ⟨e, List.mem_cons_of_mem _ he, hcovers⟩

/-- The matches of a scan begin one behind the other. -/
theorem IsScan.pairwise_lt (hpos : ∀ start a stop, spans start a stop → start < stop)
    (h : IsScan spans first found) : found.Pairwise fun e e' => e.1 < e'.1 := by
  refine h.apart.imp_of_mem fun {e e'} he _ hapart => ?_
  obtain ⟨-, stop, hstop⟩ := h.sound e he
  exact Nat.lt_of_lt_of_le (hpos _ _ _ hstop) (hapart stop hstop)

/-- Of two matches of a scan the one that begins first ends before the other begins. -/
theorem IsScan.stop_le (hpos : ∀ start a stop, spans start a stop → start < stop)
    (h : IsScan spans first found) {d e : ℕ × α} (hd : d ∈ found) (he : e ∈ found)
    (hlt : d.1 < e.1) {stop : ℕ} (hspan : spans d.1 d.2 stop) : stop ≤ e.1 := by
  let Behind (d e : ℕ × α) : Prop := d.1 < e.1 → ∀ stop, spans d.1 d.2 stop → stop ≤ e.1
  have hsymm : Std.Symm fun d e => Behind d e ∧ Behind e d := ⟨fun _ _ => And.symm⟩
  have hboth : found.Pairwise fun d e => Behind d e ∧ Behind e d := by
    refine (h.apart.and (h.pairwise_lt hpos)).imp fun {d e} hde => ⟨fun _ => hde.1, fun hed => ?_⟩
    exact absurd hed (Nat.lt_asymm hde.2)
  have hne : d ≠ e := by
    rintro rfl
    exact Nat.lt_irrefl _ hlt
  exact (hboth.forall hd he hne).1 hlt stop hspan

/-- A match is in the scan unless it begins inside an earlier match of it. -/
theorem IsScan.mem_iff (hpos : ∀ start a stop, spans start a stop → start < stop)
    (h : IsScan spans first found) {start : ℕ} {a : α} {stop : ℕ} (hfirst : first ≤ start)
    (hspan : spans start a stop) : (start, a) ∈ found ↔
      ¬∃ e ∈ found, e.1 < start ∧ ∃ stop', spans e.1 e.2 stop' ∧ start < stop' := by
  constructor
  · rintro hmem ⟨e, he, hlt, stop', hstop', hin⟩
    have hle : stop' ≤ start := h.stop_le hpos he hmem hlt hstop'
    omega
  · intro hfree
    exact (h.complete start a stop hfirst hspan).resolve_right hfree

/-- What one scan has found every other one finds too. -/
theorem IsScan.subset (hpos : ∀ start a stop, spans start a stop → start < stop)
    (h : IsScan spans first found) (h' : IsScan spans first found') :
    ∀ e ∈ found, e ∈ found' := by
  intro e
  -- by the offset: what would hide the match from the other scan begins before it
  induction hoffset : e.1 using Nat.strongRecOn generalizing e found found' with
  | ind offset ih =>
    intro he
    obtain ⟨hfirst, stop, hstop⟩ := h.sound e he
    rcases h'.complete e.1 e.2 stop hfirst hstop with hmem | ⟨d, hd, hlt, stop', hspan, hcovers⟩
    · exact hmem
    · have hdfound : d ∈ found := ih d.1 (hoffset ▸ hlt) h' h d rfl hd
      have hle : stop' ≤ e.1 := h.stop_le hpos hdfound he hlt hspan
      omega

/-- **A text has one scan.** -/
theorem IsScan.unique (hpos : ∀ start a stop, spans start a stop → start < stop)
    (h : IsScan spans first found) (h' : IsScan spans first found') : found = found' := by
  have hlt := h.pairwise_lt hpos
  have hlt' := h'.pairwise_lt hpos
  have hne : ∀ {d e : ℕ × α}, d.1 < e.1 → d ≠ e := by
    rintro d e hde rfl
    exact Nat.lt_irrefl _ hde
  have hperm : found.Perm found' :=
    (List.perm_ext_iff_of_nodup (hlt.imp hne) (hlt'.imp hne)).2 fun e =>
      ⟨h.subset hpos h' e, h'.subset hpos h e⟩
  exact hperm.eq_of_pairwise (fun d e _ _ hde hed => absurd hed (Nat.lt_asymm hde)) hlt hlt'

end

/-! ## The search -/

section

variable {m : List Char → Option (α × List Char)}

theorem SpansBy.lt {start : ℕ} {a : α} {stop : ℕ} (h : SpansBy m cs start a stop) :
    start < stop :=
  h.1

theorem SpansBy.unique {start : ℕ} {a b : α} {stop stop' : ℕ} (h : SpansBy m cs start a stop)
    (h' : SpansBy m cs start b stop') : b = a ∧ stop' = stop := by
  obtain ⟨-, hstop, h⟩ := h
  obtain ⟨-, hstop', h'⟩ := h'
  obtain ⟨rfl, hrest⟩ := Prod.mk.inj (Option.some.inj (h'.symm.trans h))
  have hlength := congrArg List.length hrest
  rw [List.length_drop, List.length_drop] at hlength
  exact ⟨rfl, by omega⟩

/-- Characters that are passed over count for the offset and for nothing else. -/
theorem findAllFrom_skip (skip offset : ℕ) (cs : List Char) :
    findAllFrom m skip offset cs = findAllFrom m 0 (offset + skip) (cs.drop skip) := by
  induction skip generalizing offset cs with
  | zero => rfl
  | succ skip ih =>
    cases cs with
    | nil => rfl
    | cons c cs => rw [findAllFrom, ih, List.drop_succ_cons, Nat.add_assoc, Nat.add_comm 1]

theorem findAllFrom_of_eq_none {c : Char} (h : m (c :: cs) = none) (offset : ℕ) :
    findAllFrom m 0 offset (c :: cs) = findAllFrom m 0 (offset + 1) cs := by
  rw [findAllFrom, h]

theorem findAllFrom_of_eq_some (hm : Eats m) {a : α} (h : m cs = some (a, rest)) (offset : ℕ) :
    findAllFrom m 0 offset cs =
      (offset, a) :: findAllFrom m 0 (offset + (cs.length - rest.length)) rest := by
  obtain ⟨eaten, hne, rfl⟩ := hm cs a rest h
  obtain ⟨c, eaten, rfl⟩ := List.exists_cons_of_ne_nil hne
  have hlength : (eaten ++ rest).length - rest.length = eaten.length := by
    rw [List.length_append]
    omega
  have hoffset : offset + 1 + eaten.length =
      offset + ((c :: eaten ++ rest).length - rest.length) := by
    rw [List.length_append, List.length_cons]
    omega
  rw [← hoffset]
  rw [List.cons_append] at h ⊢
  rw [findAllFrom, h]
  simp only [hlength]
  rw [findAllFrom_skip, List.drop_left]

/-- Where nothing matches the search goes on behind it. -/
theorem findAllFrom_append {before : List Char}
    (h : ∀ later, later ≠ [] → later <:+ before → m (later ++ cs) = none) (offset : ℕ) :
    findAllFrom m 0 offset (before ++ cs) = findAllFrom m 0 (offset + before.length) cs := by
  induction before generalizing offset with
  | nil => rfl
  | cons c before ih =>
    have hc : m (c :: (before ++ cs)) = none := h _ (List.cons_ne_nil c before) List.suffix_rfl
    rw [List.cons_append, findAllFrom_of_eq_none hc, List.length_cons, ← Nat.add_assoc,
      Nat.add_right_comm]
    exact ih (fun later hne hlater => h later hne (hlater.trans (List.suffix_cons c before))) _

/-- **The search is a scan**, whatever text stands before the offset at which it begins. -/
theorem isScan_findAllFrom (hm : Eats m) (cs : List Char) (offset : ℕ) :
    IsScan (SpansBy m cs) offset (findAllFrom m 0 offset (cs.drop offset)) := by
  induction hleft : cs.length - offset using Nat.strongRecOn generalizing offset with
  | ind left ih =>
    cases hcs : cs.drop offset with
    | nil =>
      refine isScan_nil fun start a stop hstart hspan => ?_
      have hlength : cs.length ≤ offset := List.drop_eq_nil_iff.1 hcs
      have hlt := hspan.lt
      have hstop := hspan.2.1
      omega
    | cons c rest =>
      have hlt : offset < cs.length := by
        by_contra hge
        rw [List.drop_eq_nil_iff.2 (by omega)] at hcs
        cases hcs
      cases hmatch : m (c :: rest) with
      | none =>
        rw [findAllFrom_of_eq_none hmatch]
        have hrest : rest = cs.drop (offset + 1) := by
          rw [← List.tail_drop, hcs, List.tail_cons]
        rw [hrest]
        refine IsScan.miss (fun a stop hspan => ?_) (ih _ (by omega) (offset + 1) rfl)
        rw [SpansBy, hcs, hmatch] at hspan
        cases hspan.2.2
      | some e =>
        obtain ⟨a, behind⟩ := e
        obtain ⟨eaten, hne, hsplit⟩ := hm _ _ _ hmatch
        have hpos := List.length_pos_iff.2 hne
        have hbehind : behind = cs.drop (offset + eaten.length) := by
          rw [← List.drop_drop, hcs, hsplit, List.drop_left]
        have hlength : (c :: rest).length - behind.length = eaten.length := by
          rw [hsplit, List.length_append]
          omega
        have hbound : offset + eaten.length ≤ cs.length := by
          have htotal := congrArg List.length (hcs.trans hsplit)
          rw [List.length_drop, List.length_append] at htotal
          omega
        have hspan : SpansBy m cs offset a (offset + eaten.length) :=
          ⟨by omega, hbound, by rw [hcs, hmatch, hbehind]⟩
        rw [findAllFrom_of_eq_some hm hmatch, hlength, hbehind]
        exact IsScan.hit hspan hspan.lt (fun b stop' h => hspan.unique h)
          (ih _ (by omega) (offset + eaten.length) rfl)

/-- The search over all of a text is a scan of it. -/
theorem isScan_findAll (hm : Eats m) (cs : List Char) :
    IsScan (SpansBy m cs) 0 (findAll m cs) :=
  isScan_findAllFrom hm cs 0

end

end SmellScan.Text
