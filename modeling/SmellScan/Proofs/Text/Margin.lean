import Mathlib.Data.List.Forall2
import Mathlib.Data.List.TakeDrop
import Mathlib.Data.List.TakeWhile
import SmellScan.Proofs.Text.Lines
import SmellScan.Text.Dedent

/-!
# The margin of a block

Two lists of lines are shifted against each other when the lines that count differ by the same
margin in front (`Shifted`); lines of spaces and tabs alone do not count, whatever they are. The
shared margin of shifted lines is longer by just that (`sharedMargin_shift`), so what is left when
it is dropped is the same (`dedentLines_shift`). Two things follow:

* the text of a block does not depend on how deep the scope around it is indented
  (`blockText_reindents`);
* lines without their margin are shifted against the lines they come from, so there is nothing
  more to drop (`dedentLines_dedentLines`).
-/

namespace SmellScan.Text

variable {p m line line' : List Char} {ls ls' : List (List Char)}

/-! ## Shared margins -/

theorem commonStart_append (p as bs : List Char) :
    commonStart (p ++ as) (p ++ bs) = p ++ commonStart as bs := by
  induction p with
  | nil => rfl
  | cons c p ih =>
    rw [List.cons_append, List.cons_append, commonStart, if_pos rfl, ih]
    rfl

theorem commonStart_isPrefix (as bs : List Char) :
    commonStart as bs <+: as ∧ commonStart as bs <+: bs := by
  fun_induction commonStart as bs with
  | case1 as a bs ih => exact ⟨(List.prefix_cons_inj a).2 ih.1, (List.prefix_cons_inj a).2 ih.2⟩
  | case2 | case3 => exact ⟨List.nil_prefix, List.nil_prefix⟩

theorem sharedMargin_of_all (h : line.all isIndent = true) :
    sharedMargin (line :: ls) = sharedMargin ls := by
  rw [sharedMargin, if_pos h]

theorem sharedMargin_of_not_all (h : line.all isIndent = false) :
    sharedMargin (line :: ls) = some ((sharedMargin ls).elim (line.takeWhile isIndent)
      (commonStart (line.takeWhile isIndent))) := by
  rw [sharedMargin, if_neg (by simp [h])]
  cases sharedMargin ls <;> rfl

/-- Where there is no shared margin, no line counts. -/
theorem all_of_sharedMargin_eq_none (h : sharedMargin ls = none) :
    ∀ line ∈ ls, line.all isIndent = true := by
  induction ls with
  | nil => simp
  | cons line ls ih =>
    cases hall : line.all isIndent with
    | true =>
      rw [sharedMargin_of_all hall] at h
      exact List.forall_mem_cons.2 ⟨hall, ih h⟩
    | false =>
      rw [sharedMargin_of_not_all hall] at h
      cases h

/-- A shared margin is made of spaces and tabs, and every line that counts begins with it. -/
theorem prefix_of_sharedMargin (h : sharedMargin ls = some m) :
    m.all isIndent = true ∧ ∀ line ∈ ls, line.all isIndent = false → m <+: line := by
  induction ls generalizing m with
  | nil => cases h
  | cons line ls ih =>
    cases hall : line.all isIndent with
    | true =>
      rw [sharedMargin_of_all hall] at h
      obtain ⟨hm, hls⟩ := ih h
      exact ⟨hm, List.forall_mem_cons.2 ⟨fun hline => by simp [hall] at hline, hls⟩⟩
    | false =>
      have hown : (line.takeWhile isIndent).all isIndent = true := List.all_takeWhile
      have hstart : line.takeWhile isIndent <+: line := List.takeWhile_prefix isIndent
      rw [sharedMargin_of_not_all hall, Option.some.injEq] at h
      cases hrest : sharedMargin ls with
      | none =>
        rw [hrest] at h
        subst h
        refine ⟨hown, List.forall_mem_cons.2 ⟨fun _ => hstart, fun line' hmem hline' => ?_⟩⟩
        simp [all_of_sharedMargin_eq_none hrest line' hmem] at hline'
      | some m' =>
        obtain ⟨-, hls⟩ := ih hrest
        rw [hrest] at h
        subst h
        obtain ⟨hleft, hright⟩ := commonStart_isPrefix (line.takeWhile isIndent) m'
        refine ⟨?_, List.forall_mem_cons.2 ⟨fun _ => hleft.trans hstart, ?_⟩⟩
        · rw [List.all_eq_true] at hown ⊢
          exact fun c hc => hown c (hleft.subset hc)
        · exact fun line' hmem hline' => hright.trans (hls line' hmem hline')

/-! ## Shifted lines -/

/-- A line that counts stands behind `p` in the other text; a line that does not count may be any
other such line there. -/
inductive Shifted (p : List Char) : List Char → List Char → Prop
  | behind (line : List Char) : Shifted p line (p ++ line)
  | blank {line line' : List Char} :
    line.all isIndent = true → line'.all isIndent = true → Shifted p line line'

theorem Shifted.all_eq (hp : p.all isIndent = true) (h : Shifted p line line') :
    line'.all isIndent = line.all isIndent := by
  cases h with
  | behind => rw [List.all_append, hp, Bool.true_and]
  | blank hline hline' => rw [hline, hline']

/-- **Shifted lines share a margin that is longer by the shift.** -/
theorem sharedMargin_shift (hp : p.all isIndent = true) (h : List.Forall₂ (Shifted p) ls ls') :
    sharedMargin ls' = (sharedMargin ls).map (p ++ ·) := by
  induction h with
  | nil => rfl
  | @cons line line' ls ls' hline _ ih =>
    cases hall : line.all isIndent with
    | true => rw [sharedMargin_of_all hall, sharedMargin_of_all ((hline.all_eq hp).trans hall), ih]
    | false =>
      rw [sharedMargin_of_not_all hall, sharedMargin_of_not_all ((hline.all_eq hp).trans hall), ih]
      cases hline with
      | blank hline => simp [hall] at hline
      | behind =>
        have hown : (p ++ line).takeWhile isIndent = p ++ line.takeWhile isIndent :=
          List.takeWhile_append_of_pos (List.all_eq_true.1 hp)
        rw [hown]
        cases sharedMargin ls with
        | none => rfl
        | some m => exact congrArg some (commonStart_append p (line.takeWhile isIndent) m)

theorem dropMargin_of_all (h : line.all isIndent = true) : dropMargin m line = [] :=
  if_pos h

theorem dropMargin_append (hp : p.all isIndent = true) :
    dropMargin (p ++ m) (p ++ line) = dropMargin m line := by
  rw [dropMargin, dropMargin, List.all_append, hp, Bool.true_and, List.length_append,
    List.drop_length_add_append]

theorem Shifted.dropMargin_eq (hp : p.all isIndent = true) (h : Shifted p line line') :
    dropMargin (p ++ m) line' = dropMargin m line := by
  cases h with
  | behind => exact dropMargin_append hp
  | blank hline hline' => rw [dropMargin_of_all hline, dropMargin_of_all hline']

theorem map_dropMargin_shift (hp : p.all isIndent = true) (h : List.Forall₂ (Shifted p) ls ls') :
    ls'.map (dropMargin (p ++ m)) = ls.map (dropMargin m) := by
  induction h with
  | nil => rfl
  | cons hline _ ih => rw [List.map_cons, List.map_cons, hline.dropMargin_eq hp, ih]

/-- Where no line counts, it does not matter which margin is dropped. -/
theorem map_dropMargin_of_eq_none (h : sharedMargin ls = none) (m m' : List Char) :
    ls.map (dropMargin m) = ls.map (dropMargin m') := by
  refine List.map_congr_left fun line hmem => ?_
  have hline := all_of_sharedMargin_eq_none h line hmem
  rw [dropMargin_of_all hline, dropMargin_of_all hline]

/-- **Shifted lines are the same without their margins.** -/
theorem dedentLines_shift (hp : p.all isIndent = true) (h : List.Forall₂ (Shifted p) ls ls') :
    dedentLines ls' = dedentLines ls := by
  have hshift := sharedMargin_shift hp h
  unfold dedentLines
  cases hmargin : sharedMargin ls with
  | none =>
    rw [hmargin] at hshift
    rw [hshift, map_dropMargin_of_eq_none hshift _ (p ++ [])]
    exact map_dropMargin_shift hp h
  | some m =>
    rw [hshift, hmargin]
    exact map_dropMargin_shift hp h

/-- The margin that is dropped from lines. -/
theorem all_margin (ls : List (List Char)) : ((sharedMargin ls).getD []).all isIndent = true := by
  cases hmargin : sharedMargin ls with
  | none => rfl
  | some m => exact (prefix_of_sharedMargin hmargin).1

/-- A line is shifted by the margin against what is left of it. -/
theorem shifted_dropMargin (h : line ∈ ls) :
    Shifted ((sharedMargin ls).getD []) (dropMargin ((sharedMargin ls).getD []) line) line := by
  cases hline : line.all isIndent with
  | true =>
    rw [dropMargin_of_all hline]
    exact .blank rfl hline
  | false =>
    cases hmargin : sharedMargin ls with
    | none => simp [all_of_sharedMargin_eq_none hmargin line h] at hline
    | some m =>
      obtain ⟨rest, rfl⟩ := (prefix_of_sharedMargin hmargin).2 line h hline
      have hrest : dropMargin m (m ++ rest) = rest := by
        rw [dropMargin, if_neg (by simp [hline]), List.drop_left]
      rw [Option.getD_some, hrest]
      exact .behind rest

/-- **There is no margin left to drop.** -/
theorem dedentLines_dedentLines (ls : List (List Char)) :
    dedentLines (dedentLines ls) = dedentLines ls := by
  refine (dedentLines_shift (all_margin ls) (List.forall₂_map_left_iff.2 ?_)).symm
  exact List.forall₂_same.2 fun line hline => shifted_dropMargin hline

/-! ## Blocks -/

/-- The text of a block by the lines of the source that it is cut out of. -/
def blockOfLines : List (List Char) → List Char
  | [] => []
  | [first] => trimRight first
  | first :: ls => trimRight first ++ '\n' :: trimRight (joinWith ['\n'] (dedentLines ls))

theorem ne_newline_of_not_mem {cs : List Char} (h : '\n' ∉ cs) : ∀ c ∈ cs, (c != '\n') = true := by
  intro c hc
  rw [bne_iff_ne]
  rintro rfl
  exact h hc

/-- **The text of a block depends on its lines alone.** -/
theorem blockChars_eq (raw : List Char) : blockChars raw = blockOfLines (splitOn '\n' raw) := by
  rw [blockChars, List.span_eq_takeWhile_dropWhile]
  by_cases hmem : '\n' ∈ raw
  · obtain ⟨first, rest, rfl, hfirst⟩ := List.eq_append_cons_of_mem hmem
    have hne := ne_newline_of_not_mem hfirst
    rw [splitOn_append_cons hfirst, List.takeWhile_append_of_pos hne,
      List.dropWhile_append_of_pos hne, List.takeWhile_cons_of_neg (by decide),
      List.dropWhile_cons_of_neg (by decide), List.append_nil]
    -- what stands behind a line feed has at least one line
    cases hrest : splitOn '\n' rest with
    | nil => exact absurd (splitOn_eq '\n' rest ▸ hrest) (List.splitOn_ne_nil _ _)
    | cons line ls =>
      rw [blockOfLines, ← hrest]
      · rfl
      · exact List.cons_ne_nil line ls
  · have hne := ne_newline_of_not_mem hmem
    rw [List.takeWhile_eq_self_iff.2 hne, List.dropWhile_eq_nil_iff.2 hne, splitOn_eq,
      List.splitOn_eq_singleton hmem]
    rfl

/-- A text of spaces and tabs alone. -/
def IsIndentation (s : String) : Prop :=
  ∀ c ∈ s.toList, c = ' ' ∨ c = '\t'

/-- `raw'` is `raw` with `p` in front of every line but the first. A line that is empty or made of
spaces and tabs may be as it was. -/
def Reindents (p raw raw' : String) : Prop :=
  ∃ first ls ls', lines raw = first :: ls ∧ lines raw' = first :: ls' ∧
    List.Forall₂ (fun l l' => l' = p ++ l ∨ IsIndentation l ∧ l' = l) ls ls'

theorem isIndentation_iff {s : String} : IsIndentation s ↔ s.toList.all isIndent = true := by
  simp [IsIndentation, isIndent]

instance (s : String) : Decidable (IsIndentation s) :=
  decidable_of_iff _ isIndentation_iff.symm

theorem splitOn_of_lines {s : String} {ls : List String} (h : lines s = ls) :
    splitOn '\n' s.toList = ls.map String.toList := by
  subst h
  simp [lines, split, Function.comp_def]

/-- **The text of a block does not depend on the margin of its surroundings.** -/
theorem blockText_reindents {p raw raw' : String} (hp : IsIndentation p)
    (h : Reindents p raw raw') : blockText raw' = blockText raw := by
  obtain ⟨first, ls, ls', hraw, hraw', hls⟩ := h
  have hp : p.toList.all isIndent = true := isIndentation_iff.1 hp
  have hshift : List.Forall₂ (Shifted p.toList) (ls.map String.toList) (ls'.map String.toList) := by
    refine List.forall₂_map_left_iff.2 (List.forall₂_map_right_iff.2 (hls.imp ?_))
    rintro l l' (rfl | ⟨hl, rfl⟩)
    · rw [String.toList_append]
      exact .behind l.toList
    · exact .blank (isIndentation_iff.1 hl) (isIndentation_iff.1 hl)
  rw [blockText, blockText, blockChars_eq, blockChars_eq, splitOn_of_lines hraw,
    splitOn_of_lines hraw', List.map_cons, List.map_cons]
  cases hls with
  | nil => rfl
  | cons hl hls =>
    rw [List.map_cons, List.map_cons] at hshift ⊢
    rw [blockOfLines, blockOfLines, dedentLines_shift hp hshift]
    · exact List.cons_ne_nil _ _
    · exact List.cons_ne_nil _ _

/-- A call two steps further in, by spaces and a tab, one of its empty lines left as it was. -/
theorem blockText_reindents_mixed :
    let raw := "f(\n\t a,\n\n \n\t  b\n\t)"
    let raw' := "f(\n  \t\t a,\n\n  \t \n  \t\t  b\n  \t\t)"
    IsIndentation "  \t" ∧ Reindents "  \t" raw raw' ∧ blockText raw' = blockText raw ∧
      blockText raw = "f(\n a,\n\n\n  b\n)" := by
  intro raw raw'
  have hp : IsIndentation "  \t" := by decide
  have h : Reindents "  \t" raw raw' := by
    refine ⟨"f(", ["\t a,", "", " ", "\t  b", "\t)"],
      ["  \t\t a,", "", "  \t ", "  \t\t  b", "  \t\t)"], by decide, by decide, ?_⟩
    refine .cons (.inl rfl) (.cons (.inr ⟨by decide, rfl⟩) (.cons (.inl rfl) ?_))
    exact .cons (.inl rfl) (.cons (.inl rfl) .nil)
  exact ⟨hp, h, blockText_reindents hp h, by decide⟩

end SmellScan.Text
