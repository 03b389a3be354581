import SmellScan.Proofs.Text.Braced
import SmellScan.Proofs.Text.Runs
import SmellScan.Smell.EmptyCatch

/-!
# Catch clauses in a text

What the check takes for a catch clause, said by how the text is made up and not by how it is read.
A clause is a head and a body, and the body goes up to the first closing brace. The head is the
word `catch`, a binding or none, and an opening brace, with gaps between them (`IsHead`). The reader
of clauses reads these and nothing else (`clause?_eq_some`), so the clauses that the check sees in a
text are the scan of it (`isScan_clauses`).
-/

namespace SmellScan.Smell.EmptyCatch

open Text

/-- A binding in parentheses: a name, or a name and a type with a colon between them. -/
inductive IsBinding : List Char → Prop where
  | name {w name w' : List Char} (hw : IsGap w) (hname : IsName name) (hw' : IsGap w') :
      IsBinding ('(' :: (w ++ name ++ w' ++ [')']))
  | typed {w name w' v type v' : List Char} (hw : IsGap w) (hname : IsName name) (hw' : IsGap w')
      (hv : IsGap v) (htype : IsName type) (hv' : IsGap v') :
      IsBinding ('(' :: (w ++ name ++ w' ++ ':' :: (v ++ type ++ v' ++ [')'])))

/-- The head of a clause, up to its opening brace. -/
inductive IsHead : List Char → Prop where
  | intro {w binding w' : List Char} (hw : IsGap w) (hbinding : binding = [] ∨ IsBinding binding)
      (hw' : IsGap w') : IsHead ("catch".toList ++ w ++ binding ++ w' ++ ['\x7b'])

/-- A clause with the given body stands in the text from one offset to another. -/
def Spans (cs : List Char) (start : ℕ) (body : List Char) (stop : ℕ) : Prop :=
  ∃ before head after, cs = before ++ head ++ body ++ '\x7d' :: after ∧ IsHead head ∧
    '\x7d' ∉ body ∧ start = before.length ∧ stop = start + head.length + body.length + 1

variable {cs body rest : List Char}

/-! ## Reading a head -/

theorem skipWord?_eq_some :
    skipWord? cs = some rest ↔ ∃ name, IsName name ∧ cs = name ++ rest ∧ EndsName rest := by
  constructor
  · intro h
    cases cs with
    | nil => cases h
    | cons c cs =>
      rw [skipWord?] at h
      split_ifs at h with hc
      obtain rfl := Option.some.inj h
      obtain ⟨name, hname, hsplit⟩ := exists_name hc cs
      refine ⟨name, hname, hsplit, fun d hd => ?_⟩
      have hhead := List.head?_dropWhile_not isWord cs
      rwa [hd] at hhead
  · rintro ⟨name, hname, rfl, hends⟩
    obtain ⟨c, name', rfl, hc, -⟩ := hname.exists_cons
    have hword : ∀ d ∈ name', isWord d = true := fun d hd => hname.2 d (List.mem_cons_of_mem c hd)
    rw [List.cons_append, skipWord?, if_pos hc, List.dropWhile_append_of_pos hword,
      hends.dropWhile_eq]

/-- A name is read behind a gap, up to the gap behind it. -/
theorem skipWord?_trimLeft {w name w' : List Char} {c : Char} (hw : IsGap w) (hname : IsName name)
    (hw' : IsGap w') (hc : isWord c = false) :
    skipWord? (trimLeft (w ++ (name ++ (w' ++ c :: rest)))) = some (w' ++ c :: rest) := by
  rw [hw.trimLeft_append, hname.trimLeft_append]
  exact skipWord?_eq_some.2 ⟨name, hname, rfl, hw'.endsName_append hc rest⟩

/-- Where a name is read there is one, with gaps around it. -/
theorem exists_of_skipWord? {c : Char} {behind : List Char}
    (hword : skipWord? (trimLeft cs) = some behind) (hbehind : trimLeft behind = c :: rest) :
    ∃ w name w', IsGap w ∧ IsName name ∧ IsGap w' ∧ cs = w ++ name ++ w' ++ c :: rest := by
  obtain ⟨w, hw, hcs⟩ := exists_gap cs
  obtain ⟨name, hname, hsplit, -⟩ := skipWord?_eq_some.1 hword
  obtain ⟨w', hw', hgap⟩ := exists_gap behind
  refine ⟨w, name, w', hw, hname, hw', ?_⟩
  rw [hcs, hsplit, hgap, hbehind]
  simp

theorem exists_of_skipBinding? (h : skipBinding? cs = some rest) :
    ∃ binding, IsBinding ('(' :: binding) ∧ cs = binding ++ rest := by
  unfold skipBinding? at h
  split at h
  · cases h
  · rename_i behind hword
    split at h
    · rename_i hbehind
      obtain rfl := Option.some.inj h
      obtain ⟨w, name, w', hw, hname, hw', rfl⟩ := exists_of_skipWord? hword hbehind
      exact ⟨_, .name hw hname hw', by simp⟩
    · rename_i colon hbehind
      split at h
      · cases h
      · rename_i behind' hword'
        split at h
        · rename_i hbehind'
          obtain rfl := Option.some.inj h
          obtain ⟨w, name, w', hw, hname, hw', rfl⟩ := exists_of_skipWord? hword hbehind
          obtain ⟨v, type, v', hv, htype, hv', rfl⟩ := exists_of_skipWord? hword' hbehind'
          exact ⟨_, .typed hw hname hw' hv htype hv', by simp⟩
        · cases h
    · cases h

theorem skipBinding?_append {binding : List Char} (h : IsBinding ('(' :: binding))
    (rest : List Char) : skipBinding? (binding ++ rest) = some rest := by
  have hparen : isWord ')' = false := by decide
  have hcolon : isWord ':' = false := by decide
  generalize hopen : '(' :: binding = text at h
  cases h with
  | name hw hname hw' =>
    obtain ⟨-, rfl⟩ := List.cons.inj hopen
    simp only [List.append_assoc, List.singleton_append]
    rw [skipBinding?, skipWord?_trimLeft hw hname hw' hparen]
    simp only
    rw [hw'.trimLeft_append, trimLeft_cons (by decide)]
    rfl
  | typed hw hname hw' hv htype hv' =>
    obtain ⟨-, rfl⟩ := List.cons.inj hopen
    simp only [List.append_assoc, List.cons_append]
    rw [skipBinding?, skipWord?_trimLeft hw hname hw' hcolon]
    simp only
    rw [hw'.trimLeft_append, trimLeft_cons (by decide)]
    simp only
    rw [skipWord?_trimLeft hv htype hv' hparen]
    simp only
    rw [hv'.trimLeft_append, trimLeft_cons (by decide)]
    rfl

theorem exists_of_skipBindingIfAny? (h : skipBindingIfAny? cs = some rest) :
    ∃ binding, (binding = [] ∨ IsBinding binding) ∧ cs = binding ++ rest := by
  unfold skipBindingIfAny? at h
  split at h
  · obtain ⟨binding, hbinding, rfl⟩ := exists_of_skipBinding? h
    exact ⟨'(' :: binding, Or.inr hbinding, rfl⟩
  · exact ⟨[], Or.inl rfl, Option.some.inj h⟩

/-- A binding that is there is read, and where there is none the reader is at the brace. -/
theorem exists_skipBindingIfAny? {w binding w' : List Char} (hw : IsGap w)
    (hbinding : binding = [] ∨ IsBinding binding) (hw' : IsGap w') (rest : List Char) :
    ∃ behind, skipBindingIfAny? (trimLeft (w ++ (binding ++ (w' ++ '\x7b' :: rest)))) =
      some behind ∧ trimLeft behind = '\x7b' :: rest := by
  have hbrace : trimLeft ('\x7b' :: rest) = '\x7b' :: rest := trimLeft_cons (by decide) rest
  rw [hw.trimLeft_append]
  rcases hbinding with rfl | hbinding
  · refine ⟨'\x7b' :: rest, ?_, hbrace⟩
    rw [List.nil_append, hw'.trimLeft_append, hbrace]
    rfl
  · refine ⟨w' ++ '\x7b' :: rest, ?_, (hw'.trimLeft_append _).trans hbrace⟩
    have hopen : ∃ inner, binding = '(' :: inner := by
      cases hbinding <;> exact ⟨_, rfl⟩
    obtain ⟨inner, rfl⟩ := hopen
    rw [List.cons_append, trimLeft_cons (by decide)]
    exact skipBinding?_append hbinding _

/-- **The reader of clauses reads a head, and a body up to the first closing brace.** -/
theorem clause?_eq_some :
    clause? cs = some (body, rest) ↔
      ∃ head, IsHead head ∧ '\x7d' ∉ body ∧ cs = head ++ body ++ '\x7d' :: rest := by
  constructor
  · intro h
    unfold clause? at h
    split at h
    · cases h
    · rename_i behind hcatch
      obtain rfl := stripStart?_eq_some.1 hcatch
      obtain ⟨w, hw, hbehind⟩ := exists_gap behind
      split at h
      · cases h
      · rename_i behind' hread
        obtain ⟨binding, hbinding, hsplit⟩ := exists_of_skipBindingIfAny? hread
        obtain ⟨w', hw', hbehind'⟩ := exists_gap behind'
        split at h
        · rename_i opened hopened
          obtain ⟨hbody, rfl⟩ := upTo?_eq_some.1 h
          refine ⟨_, .intro hw hbinding hw', hbody, ?_⟩
          rw [hbehind, hsplit, hbehind', hopened]
          simp
        · cases h
  · rintro ⟨head, @⟨w, binding, w', hw, hbinding, hw'⟩, hbody, rfl⟩
    obtain ⟨behind, hread, hbehind⟩ :=
      exists_skipBindingIfAny? hw hbinding hw' (body ++ '\x7d' :: rest)
    simp only [List.append_assoc, List.cons_append, List.nil_append]
    rw [clause?, stripStart?_eq_some.2 rfl]
    simp only
    rw [hread]
    simp only
    rw [hbehind]
    exact upTo?_eq_some.2 ⟨hbody, rfl⟩

/-! ## Clauses in a text -/

theorem IsBinding.not_mem {binding : List Char} (h : IsBinding binding) : '\x7d' ∉ binding := by
  have hblank : isBlank '\x7d' = false := by decide
  have hword : isWord '\x7d' = false := by decide
  cases h with
  | name hw hname hw' =>
    simp [hw.not_mem hblank, hname.not_mem hword, hw'.not_mem hblank]
  | typed hw hname hw' hv htype hv' =>
    simp [hw.not_mem hblank, hname.not_mem hword, hw'.not_mem hblank, hv.not_mem hblank,
      htype.not_mem hword, hv'.not_mem hblank]

/-- No closing brace stands in a head. -/
theorem IsHead.not_mem {head : List Char} (h : IsHead head) : '\x7d' ∉ head := by
  have hblank : isBlank '\x7d' = false := by decide
  obtain @⟨w, binding, w', hw, hbinding, hw'⟩ := h
  have hnot : '\x7d' ∉ binding := by
    rcases hbinding with rfl | hbinding
    · exact List.not_mem_nil
    · exact hbinding.not_mem
  simp [hw.not_mem hblank, hnot, hw'.not_mem hblank]

theorem IsHead.exists_cons {head : List Char} (h : IsHead head) : ∃ rest, head = 'c' :: rest := by
  obtain ⟨hw, hbinding, hw'⟩ := h
  exact ⟨_, rfl⟩

/-- The reader of clauses, in the words of heads and bodies. -/
theorem readsBraced_clause? :
    ReadsBraced clause? fun head body => IsHead head ∧ '\x7d' ∉ body := by
  intro cs body rest
  simp only [clause?_eq_some, and_assoc]

theorem spans_eq_braced (cs : List Char) :
    Spans cs = Braced (fun head body => IsHead head ∧ '\x7d' ∉ body) cs := by
  funext start body stop
  simp only [Spans, Braced, and_assoc]

/-- **The clauses that the check sees are the scan of the text.** -/
theorem isScan_clauses (cs : List Char) : IsScan (Spans cs) 0 (findAll clause? cs) := by
  rw [spans_eq_braced]
  exact readsBraced_clause?.isScan cs

theorem isScan_iff {found : List (ℕ × List Char)} :
    IsScan (Spans cs) 0 found ↔ found = findAll clause? cs := by
  rw [spans_eq_braced, readsBraced_clause?.isScan_iff]

end SmellScan.Smell.EmptyCatch
