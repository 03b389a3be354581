import Mathlib.Algebra.GroupWithZero.Nat
import SmellScan.Proofs.Text.Lines

/-!
# Offsets and lines

A place in a text is given by its offset or by its line, and the two are found in ways that know
nothing of each other: the number of a line counts the line feeds before an offset (`lineOf`), and
the lines are cut at the line feeds of the whole text (`lines`). They agree at every offset
(`covers_iff`): where a text is cut in two, its last line before the cut and the first line behind
it are parts of one line (`exists_splitOn_append`), which is the one that the line feeds before the
cut lead to (`exists_line`). So a word without line feeds that stands at an offset stands in that
line, as far from its start as the offset is (`showsAt_lineOf`).
-/

namespace SmellScan.Text

variable {sep : Char} {s : String}

/-! ## Texts cut in two -/

/-- **Two texts in a row share a piece**: the last one of the first text and the first one of the
second. -/
theorem exists_splitOn_append (sep : Char) (before after : List Char) :
    ∃ front left right back, splitOn sep before = front ++ [left] ∧
      splitOn sep after = right :: back ∧
      splitOn sep (before ++ after) = front ++ (left ++ right) :: back := by
  induction before with
  | nil =>
    cases hafter : splitOn sep after with
    | nil => simpa [hafter] using length_splitOn sep after
    | cons right back => exact ⟨[], [], right, back, rfl, rfl, hafter⟩
  | cons c before ih =>
    obtain ⟨front, left, right, back, hbefore, hafter, hboth⟩ := ih
    by_cases hc : c = sep
    · refine ⟨[] :: front, left, right, back, ?_, hafter, ?_⟩
      · rw [splitOn, if_pos hc, hbefore, List.cons_append]
      · rw [List.cons_append, splitOn, if_pos hc, hboth, List.cons_append]
    · -- the character joins the first piece, which is the shared one if there is no other
      cases front with
      | nil =>
        refine ⟨[], c :: left, right, back, ?_, hafter, ?_⟩
        · rw [splitOn, if_neg hc, hbefore]
          rfl
        · rw [List.cons_append, splitOn, if_neg hc, hboth]
          rfl
      | cons piece front =>
        refine ⟨(c :: piece) :: front, left, right, back, ?_, hafter, ?_⟩
        · rw [splitOn, if_neg hc, hbefore]
          rfl
        · rw [List.cons_append, splitOn, if_neg hc, hboth]
          rfl

/-- A word without separators is the start of the first piece of a text that begins with it. -/
theorem prefix_of_head?_splitOn {word right : List Char} (hword : sep ∉ word) (rest : List Char)
    (h : (splitOn sep (word ++ rest)).head? = some right) : word <+: right := by
  obtain ⟨front, left, right', back, hsplit, -, hboth⟩ := exists_splitOn_append sep word rest
  rw [splitOn_of_not_mem hword, ← List.nil_append [word]] at hsplit
  obtain ⟨rfl, hleft⟩ := List.append_inj' hsplit rfl
  obtain rfl := List.singleton_inj.1 hleft
  rw [hboth] at h
  obtain rfl := Option.some.inj h
  exact List.prefix_append word right'

/-- Pieces and separators make up the text, and one separator more. -/
theorem sum_splitOn (sep : Char) (cs : List Char) :
    ((splitOn sep cs).map (·.length + 1)).sum = cs.length + 1 := by
  induction cs with
  | nil => rfl
  | cons c cs ih =>
    rw [splitOn]
    split_ifs with hc
    · rw [List.map_cons, List.sum_cons, ih, List.length_nil, List.length_cons, Nat.add_comm]
    · cases hsplit : splitOn sep cs with
      | nil => simp [hsplit] at ih
      | cons piece pieces =>
        rw [hsplit] at ih
        simp only [List.map_cons, List.sum_cons, List.length_cons] at ih ⊢
        omega

/-! ## Where lines start -/

/-- The offset at which the line of index `k` starts: behind the lines before it, each with its line
feed. -/
def lineStart (lines : List String) (k : ℕ) : ℕ :=
  ((lines.take k).map (·.length + 1)).sum

/-- The line of number `n`, from 1, covers an offset: this is at the start of the line or behind it,
and at the line feed that ends the line or before it. -/
def Covers (lines : List String) (n offset : ℕ) : Prop :=
  ∃ k line, n = k + 1 ∧ lines[k]? = some line ∧ lineStart lines k ≤ offset ∧
    offset ≤ lineStart lines k + line.length

/-- A word stands in the line of number `n`, from 1, at the column of an offset, which is how far
behind the start of the line it is. -/
def ShowsAt (lines : List String) (word : List Char) (n offset : ℕ) : Prop :=
  ∃ k line, n = k + 1 ∧ lines[k]? = some line ∧ lineStart lines k ≤ offset ∧
    word <+: line.toList.drop (offset - lineStart lines k)

theorem lineStart_succ {lines : List String} {k : ℕ} {line : String}
    (h : lines[k]? = some line) :
    lineStart lines (k + 1) = lineStart lines k + line.length + 1 := by
  rw [lineStart, List.take_add_one, h, Option.toList_some, List.map_append, List.sum_append]
  rfl

theorem lineStart_mono (lines : List String) {k l : ℕ} (h : k ≤ l) :
    lineStart lines k ≤ lineStart lines l := by
  obtain ⟨d, rfl⟩ := Nat.exists_eq_add_of_le h
  rw [lineStart, lineStart, List.take_add, List.map_append, List.sum_append]
  exact Nat.le_add_right _ _

/-- No two lines cover one offset. -/
theorem Covers.unique {lines : List String} {m n offset : ℕ} (h : Covers lines m offset)
    (h' : Covers lines n offset) : m = n := by
  obtain ⟨k, line, rfl, hk, hstart, hstop⟩ := h
  obtain ⟨l, line', rfl, hl, hstart', hstop'⟩ := h'
  have hnext := lineStart_succ hk
  have hnext' := lineStart_succ hl
  rcases Nat.lt_trichotomy k l with hlt | rfl | hlt
  · have hle : lineStart lines (k + 1) ≤ lineStart lines l := lineStart_mono lines hlt
    omega
  · rfl
  · have hle : lineStart lines (l + 1) ≤ lineStart lines k := lineStart_mono lines hlt
    omega

theorem ShowsAt.one_le_and_le {lines : List String} {word : List Char} {n offset : ℕ}
    (h : ShowsAt lines word n offset) : 1 ≤ n ∧ n ≤ lines.length := by
  obtain ⟨k, line, rfl, hk, -⟩ := h
  exact ⟨by omega, (List.getElem?_eq_some_iff.1 hk).1⟩

/-! ## The line of an offset -/

/-- **The line that the line feeds before an offset lead to** is made of what stands in it before
the offset and behind it. -/
theorem exists_line {before after : List Char} (hs : s.toList = before ++ after) :
    ∃ left right line, (lines s)[before.count '\n']? = some line ∧ line.toList = left ++ right ∧
      lineStart (lines s) (before.count '\n') + left.length = before.length ∧
      (splitOn '\n' after).head? = some right := by
  obtain ⟨front, left, right, back, hbefore, hafter, hboth⟩ :=
    exists_splitOn_append '\n' before after
  have hindex : before.count '\n' = front.length := by
    have hlength := length_splitOn '\n' before
    rw [hbefore, List.length_append, List.length_singleton] at hlength
    omega
  have hlines : lines s =
      front.map String.ofList ++ String.ofList (left ++ right) :: back.map String.ofList := by
    rw [lines, split, hs, hboth, List.map_append, List.map_cons]
  have hstart : lineStart (lines s) front.length = (front.map (·.length + 1)).sum := by
    rw [lineStart, hlines, List.take_append_of_le_length (by simp),
      List.take_of_length_le (by simp),
      List.map_map]
    simp [Function.comp_def]
  have hsum : (front.map (·.length + 1)).sum + left.length = before.length := by
    have htotal := sum_splitOn '\n' before
    rw [hbefore, List.map_append, List.sum_append, List.map_singleton, List.sum_singleton] at htotal
    omega
  refine ⟨left, right, _, ?_, String.toList_ofList, ?_, ?_⟩
  · rw [hindex, hlines, List.getElem?_append_right (by simp)]
    simp
  · rw [hindex, hstart, hsum]
  · rw [hafter]
    rfl

/-- **The number of a line and the line agree at every offset of a text.** -/
theorem covers_iff {offset n : ℕ} (h : offset ≤ s.length) :
    Covers (lines s) n offset ↔ n = lineOf s.toList offset := by
  have hcovers : Covers (lines s) (lineOf s.toList offset) offset := by
    obtain ⟨left, right, line, hline, htext, hstart, -⟩ :=
      exists_line (List.take_append_drop offset s.toList).symm
    have hlength : (s.toList.take offset).length = offset := by
      rw [List.length_take, String.length_toList, Nat.min_eq_left h]
    have hsize : line.length = left.length + right.length := by
      rw [← String.length_toList, htext, List.length_append]
    exact ⟨_, line, rfl, hline, by omega, by omega⟩
  constructor
  · intro hn
    exact hn.unique hcovers
  · rintro rfl
    exact hcovers

/-- **A word without line feeds stands in the line of its offset.** -/
theorem showsAt_lineOf {before word rest : List Char} (hs : s.toList = before ++ (word ++ rest))
    (hword : '\n' ∉ word) :
    ShowsAt (lines s) word (lineOf s.toList before.length) before.length := by
  obtain ⟨left, right, line, hline, htext, hstart, hright⟩ := exists_line hs
  have hnumber : lineOf s.toList before.length = before.count '\n' + 1 := by
    rw [lineOf, hs, List.take_left]
  have hcolumn : before.length - lineStart (lines s) (before.count '\n') = left.length := by
    omega
  refine ⟨_, line, hnumber, hline, by omega, ?_⟩
  rw [hcolumn, htext, List.drop_left]
  exact prefix_of_head?_splitOn hword rest hright

end SmellScan.Text
