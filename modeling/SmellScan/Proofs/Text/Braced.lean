import SmellScan.Proofs.Text.Scan

/-!
# Heads and bodies

Several patterns have one form: a head, a body behind it, and a closing brace that ends both. A
matcher of this form gives the body. What it may read is said here by a relation between heads and
bodies, `Parts`, and not by how it reads (`ReadsBraced`). Then what matches in a text, from where to
where, is said by how the text is made up (`Braced`), and the search gives the one scan of the text
for it (`ReadsBraced.isScan_iff`).
-/

namespace SmellScan.Text

/-- The matcher reads a head and a body that `Parts` relates, and the closing brace behind them. -/
def ReadsBraced (m : List Char → Option (List Char × List Char))
    (Parts : List Char → List Char → Prop) : Prop :=
  ∀ cs body rest, m cs = some (body, rest) ↔
    ∃ head, Parts head body ∧ cs = head ++ body ++ '\x7d' :: rest

/-- A head, the given body and a closing brace stand in the text from one offset to another. -/
def Braced (Parts : List Char → List Char → Prop) (cs : List Char) (start : ℕ) (body : List Char)
    (stop : ℕ) : Prop :=
  ∃ before head after, cs = before ++ head ++ body ++ '\x7d' :: after ∧ Parts head body ∧
    start = before.length ∧ stop = start + head.length + body.length + 1

variable {m : List Char → Option (List Char × List Char)}
  {Parts : List Char → List Char → Prop} {cs : List Char}

theorem ReadsBraced.eats (hm : ReadsBraced m Parts) : Eats m := by
  intro cs body rest h
  obtain ⟨head, -, rfl⟩ := (hm cs body rest).1 h
  exact ⟨head ++ body ++ ['\x7d'], by simp, by simp⟩

theorem ReadsBraced.spansBy_iff (hm : ReadsBraced m Parts) {start stop : ℕ} {body : List Char} :
    SpansBy m cs start body stop ↔ Braced Parts cs start body stop := by
  constructor
  · rintro ⟨hlt, hstop, hmatch⟩
    obtain ⟨head, hparts, hsplit⟩ := (hm _ _ _).1 hmatch
    refine ⟨cs.take start, head, cs.drop stop, ?_, hparts, ?_, ?_⟩
    · conv_lhs => rw [← List.take_append_drop start cs, hsplit]
      simp
    · rw [List.length_take]
      omega
    · have hlength := congrArg List.length hsplit
      simp only [List.length_append, List.length_drop, List.length_cons] at hlength
      omega
  · rintro ⟨before, head, after, rfl, hparts, rfl, rfl⟩
    refine ⟨by omega, by simp; omega, ?_⟩
    have hstart : (before ++ head ++ body ++ '\x7d' :: after).drop before.length =
        head ++ body ++ '\x7d' :: after := by
      simp
    have hstop : (before ++ head ++ body ++ '\x7d' :: after).drop
        (before.length + head.length + body.length + 1) = after := by
      have hlength : before.length + head.length + body.length + 1 =
          (before ++ head ++ body ++ ['\x7d']).length := by
        simp
        omega
      rw [List.append_cons, hlength, List.drop_left]
    rw [hstart, hstop]
    exact (hm _ _ _).2 ⟨head, hparts, rfl⟩

/-- One body is read at an offset. -/
theorem ReadsBraced.unique (hm : ReadsBraced m Parts) {start stop stop' : ℕ}
    {body body' : List Char} (h : Braced Parts cs start body stop)
    (h' : Braced Parts cs start body' stop') : body' = body :=
  ((hm.spansBy_iff.2 h).unique (hm.spansBy_iff.2 h')).1

theorem ReadsBraced.spansBy_eq (hm : ReadsBraced m Parts) (cs : List Char) :
    SpansBy m cs = Braced Parts cs := by
  funext start body stop
  exact propext hm.spansBy_iff

/-- **What the search finds is the scan of the text.** -/
theorem ReadsBraced.isScan (hm : ReadsBraced m Parts) (cs : List Char) :
    IsScan (Braced Parts cs) 0 (findAll m cs) := by
  rw [← hm.spansBy_eq]
  exact isScan_findAll hm.eats cs

/-- If all heads begin with a word then the word stands at the offset of whatever is found. -/
theorem ReadsBraced.exists_word (hm : ReadsBraced m Parts) {word : List Char}
    (hword : ∀ head body, Parts head body → word <+: head) {e : ℕ × List Char}
    (he : e ∈ findAll m cs) :
    ∃ before rest, cs = before ++ (word ++ rest) ∧ e.1 = before.length := by
  obtain ⟨-, stop, before, head, after, hcs, hparts, hstart, -⟩ := (hm.isScan cs).sound e he
  obtain ⟨tail, rfl⟩ := hword head e.2 hparts
  exact ⟨before, tail ++ e.2 ++ '\x7d' :: after, by simp [hcs], hstart⟩

theorem Braced.lt {start stop : ℕ} {body : List Char} (h : Braced Parts cs start body stop) :
    start < stop := by
  obtain ⟨before, head, after, -, -, -, rfl⟩ := h
  omega

theorem ReadsBraced.isScan_iff (hm : ReadsBraced m Parts) {found : List (ℕ × List Char)} :
    IsScan (Braced Parts cs) 0 found ↔ found = findAll m cs := by
  constructor
  · intro h
    exact h.unique (fun _ _ _ hspan => hspan.lt) (hm.isScan cs)
  · rintro rfl
    exact hm.isScan cs

end SmellScan.Text
