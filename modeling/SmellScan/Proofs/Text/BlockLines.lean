import Mathlib.Data.List.DropRight
import SmellScan.Proofs.Text.Margin

/-!
# The lines of a block

A text that ends in ink, which is any character but a blank, keeps its lines when it becomes the
text of a block: its first line is trimmed on the right, its other lines lose their margin, and the
trimming of the whole has nothing to do (`splitOn_blockChars`). So there are as many line feeds as
before (`count_blockChars`), each line is what it was but for blanks at its ends
(`map_trim_blockChars`), and a second time nothing changes (`blockChars_blockChars`).
-/

namespace SmellScan.Text

variable {p line line' cs : List Char} {ls : List (List Char)} {sep : Char}

/-! ## Trimming -/

theorem isBlank_of_all_isIndent (h : cs.all isIndent = true) : ∀ c ∈ cs, isBlank c = true := by
  intro c hc
  have hindent := List.all_eq_true.1 h c hc
  rw [isIndent, Bool.or_eq_true, beq_iff_eq, beq_iff_eq] at hindent
  rcases hindent with rfl | rfl <;> decide

theorem trimRight_isPrefix (cs : List Char) : trimRight cs <+: cs :=
  List.rdropWhile_prefix isBlank cs

theorem trimRight_trimRight (cs : List Char) : trimRight (trimRight cs) = trimRight cs :=
  List.rdropWhile_idempotent isBlank cs

theorem trimRight_append (h : ∀ c ∈ line, isBlank c = true) (cs : List Char) :
    trimRight (cs ++ line) = trimRight cs := by
  have hline : ∀ c ∈ line.reverse, isBlank c = true := fun c hc => h c (List.mem_reverse.1 hc)
  rw [trimRight, List.reverse_append, List.dropWhile_append_of_pos hline, trimRight]

theorem trim_append_left (h : ∀ c ∈ p, isBlank c = true) (cs : List Char) :
    trim (p ++ cs) = trim cs := by
  rw [trim, trimLeft, List.dropWhile_append_of_pos h, trim, trimLeft]

theorem trim_eq_nil (h : ∀ c ∈ cs, isBlank c = true) : trim cs = [] := by
  have hnil := trim_append_left h []
  rwa [List.append_nil] at hnil

theorem trim_append_right (h : ∀ c ∈ p, isBlank c = true) (cs : List Char) :
    trim (cs ++ p) = trim cs := by
  have hp : p.dropWhile isBlank = [] := List.dropWhile_eq_nil_iff.2 h
  rw [trim, trimLeft, List.dropWhile_append, trim, trimLeft]
  split_ifs with hcs
  · rw [hp, List.isEmpty_iff.1 hcs]
  · exact trimRight_append h _

/-- Trimming on the right first makes no difference. -/
theorem trim_trimRight (cs : List Char) : trim (trimRight cs) = trim cs := by
  have hcs : trimRight cs ++ cs.rtakeWhile isBlank = cs := List.rdropWhile_append_rtakeWhile
  have hblank : ∀ c ∈ cs.rtakeWhile isBlank, isBlank c = true :=
    fun c hc => List.mem_rtakeWhile_imp hc
  calc trim (trimRight cs) = trim (trimRight cs ++ cs.rtakeWhile isBlank) :=
        (trim_append_right hblank _).symm
    _ = trim cs := by rw [hcs]

/-! ## Texts that end in ink -/

/-- The last character of a text is there and is no blank. -/
def EndsInInk (cs : List Char) : Prop :=
  ∃ c, cs.getLast? = some c ∧ isBlank c = false

theorem not_endsInInk (h : ∀ c ∈ cs, isBlank c = true) : ¬EndsInInk cs := by
  rintro ⟨c, hc, hink⟩
  rw [h c (List.mem_of_getLast? hc)] at hink
  cases hink

theorem endsInInk_append (as bs : List Char) :
    EndsInInk (as ++ bs) ↔ EndsInInk bs ∨ bs = [] ∧ EndsInInk as := by
  cases bs using List.reverseRecOn with
  | nil => simp [EndsInInk]
  | append_singleton bs b => simp [EndsInInk, ← List.append_assoc]

theorem EndsInInk.trimRight_eq (h : EndsInInk cs) : trimRight cs = cs := by
  obtain ⟨c, hc, hink⟩ := h
  refine List.rdropWhile_eq_self_iff.2 fun hne => ?_
  rw [List.getLast?_eq_some_getLast hne, Option.some.injEq] at hc
  simp [hc, hink]

/-- Joined lines end in ink where the last of them does. -/
theorem endsInInk_joinWith (ls : List (List Char)) :
    EndsInInk (joinWith ['\n'] ls) ↔ ∃ line, ls.getLast? = some line ∧ EndsInInk line := by
  fun_induction joinWith ['\n'] ls with
  | case1 => simp [EndsInInk]
  | case2 line => simp
  | case3 line ls hls ih =>
    cases ls with
    | nil => exact absurd rfl hls
    | cons line' ls =>
      have hfeed : ¬EndsInInk (line ++ ['\n']) := by
        rintro ⟨c, hc, hink⟩
        rw [List.getLast?_concat, Option.some.injEq] at hc
        subst hc
        exact absurd hink (by decide)
      rw [endsInInk_append, ih, List.getLast?_cons_cons]
      exact or_iff_left fun h => hfeed h.2

/-- What is left of a line that ends in ink ends in ink. -/
theorem Shifted.endsInInk (hp : p.all isIndent = true) (h : Shifted p line line')
    (hink : EndsInInk line') : EndsInInk line := by
  cases h with
  | behind =>
    have hnot := not_endsInInk (isBlank_of_all_isIndent hp)
    exact ((endsInInk_append p line).1 hink).resolve_right fun h => hnot h.2
  | blank _ hline' => exact absurd hink (not_endsInInk (isBlank_of_all_isIndent hline'))

theorem Shifted.trim_eq (hp : p.all isIndent = true) (h : Shifted p line line') :
    trim line = trim line' := by
  cases h with
  | behind => exact (trim_append_left (isBlank_of_all_isIndent hp) line).symm
  | blank hline hline' =>
    rw [trim_eq_nil (isBlank_of_all_isIndent hline), trim_eq_nil (isBlank_of_all_isIndent hline')]

/-! ## Lines -/

theorem not_mem_dedentLines (h : ∀ line ∈ ls, sep ∉ line) :
    ∀ line ∈ dedentLines ls, sep ∉ line := by
  intro line hline hsep
  obtain ⟨whole, hwhole, rfl⟩ := List.mem_map.1 hline
  unfold dropMargin at hsep
  split_ifs at hsep
  · cases hsep
  · exact h whole hwhole ((List.drop_subset _ _) hsep)

theorem EndsInInk.dedentLines (h : EndsInInk (joinWith ['\n'] ls)) :
    EndsInInk (joinWith ['\n'] (dedentLines ls)) := by
  obtain ⟨line, hlast, hink⟩ := (endsInInk_joinWith ls).1 h
  refine (endsInInk_joinWith _).2 ⟨dropMargin ((sharedMargin ls).getD []) line, ?_, ?_⟩
  · rw [Text.dedentLines, List.getLast?_map, hlast, Option.map_some]
  · exact (shifted_dropMargin (List.mem_of_getLast? hlast)).endsInInk (all_margin ls) hink

theorem EndsInInk.tail {first : List Char} (h : EndsInInk (joinWith ['\n'] (first :: ls)))
    (hls : ls ≠ []) : EndsInInk (joinWith ['\n'] ls) := by
  rw [endsInInk_joinWith] at h ⊢
  rwa [List.getLast?_cons_of_ne_nil hls] at h

/-- The lines of a block, by the lines of the source that it is cut out of. -/
def blockLines : List (List Char) → List (List Char)
  | [] => []
  | first :: ls => trimRight first :: dedentLines ls

theorem map_trim_blockLines (ls : List (List Char)) : (blockLines ls).map trim = ls.map trim := by
  cases ls with
  | nil => rfl
  | cons first ls =>
    rw [blockLines, List.map_cons, List.map_cons, trim_trimRight, dedentLines, List.map_map]
    refine congrArg _ (List.map_congr_left fun line hline => ?_)
    exact (shifted_dropMargin hline).trim_eq (all_margin ls)

theorem length_blockLines (ls : List (List Char)) : (blockLines ls).length = ls.length := by
  cases ls with
  | nil => rfl
  | cons first ls => simp [blockLines, dedentLines]

theorem not_mem_blockLines (h : ∀ line ∈ ls, sep ∉ line) : ∀ line ∈ blockLines ls, sep ∉ line := by
  cases ls with
  | nil => exact h
  | cons first ls =>
    obtain ⟨hfirst, hls⟩ := List.forall_mem_cons.1 h
    refine List.forall_mem_cons.2 ⟨fun hsep => ?_, not_mem_dedentLines hls⟩
    exact hfirst ((trimRight_isPrefix first).subset hsep)

theorem blockOfLines_cons (first : List Char) (hls : ls ≠ []) :
    blockOfLines (first :: ls) =
      trimRight first ++ '\n' :: trimRight (joinWith ['\n'] (dedentLines ls)) := by
  rw [blockOfLines]
  exact hls

theorem dedentLines_ne_nil (hls : ls ≠ []) : dedentLines ls ≠ [] := by
  rwa [dedentLines, ne_eq, List.map_eq_nil_iff]

/-- Where the source ends in ink, nothing is trimmed off the whole. -/
theorem blockOfLines_eq (h : EndsInInk (joinWith ['\n'] ls)) :
    blockOfLines ls = joinWith ['\n'] (blockLines ls) := by
  cases ls with
  | nil => rfl
  | cons first ls =>
    by_cases hls : ls = []
    · subst hls
      rfl
    · rw [blockOfLines_cons first hls, (h.tail hls).dedentLines.trimRight_eq, joinWith_eq,
        joinWith_eq, blockLines, List.intercalate_cons_of_ne_nil (dedentLines_ne_nil hls),
        List.append_assoc, List.singleton_append]

/-- The lines of a block make the same block. -/
theorem blockOfLines_blockLines (ls : List (List Char)) :
    blockOfLines (blockLines ls) = blockOfLines ls := by
  cases ls with
  | nil => rfl
  | cons first ls =>
    by_cases hls : ls = []
    · subst hls
      exact trimRight_trimRight first
    · rw [blockLines, blockOfLines_cons _ (dedentLines_ne_nil hls), blockOfLines_cons _ hls,
        trimRight_trimRight, dedentLines_dedentLines]

variable {raw : List Char}

/-- **The lines of a block** that is cut out of its source up to ink. -/
theorem splitOn_blockChars (h : EndsInInk raw) :
    splitOn '\n' (blockChars raw) = blockLines (splitOn '\n' raw) := by
  have hne : blockLines (splitOn '\n' raw) ≠ [] := by
    rw [← List.length_pos_iff, length_blockLines, length_splitOn]
    exact Nat.succ_pos _
  rw [← joinWith_splitOn '\n' raw] at h
  rw [blockChars_eq, blockOfLines_eq h]
  exact splitOn_joinWith hne (not_mem_blockLines fun _ hline => not_mem_of_mem_splitOn hline)

/-- No line feed comes or goes. -/
theorem count_blockChars (h : EndsInInk raw) : (blockChars raw).count '\n' = raw.count '\n' := by
  have hlength := congrArg List.length (splitOn_blockChars h)
  rw [length_blockLines, length_splitOn, length_splitOn] at hlength
  exact Nat.succ.inj hlength

/-- Every line is what it was but for blanks at its ends. -/
theorem map_trim_blockChars (h : EndsInInk raw) :
    (splitOn '\n' (blockChars raw)).map trim = (splitOn '\n' raw).map trim := by
  rw [splitOn_blockChars h, map_trim_blockLines]

/-- **A second time nothing changes.** -/
theorem blockChars_blockChars (h : EndsInInk raw) :
    blockChars (blockChars raw) = blockChars raw := by
  rw [blockChars_eq (blockChars raw), splitOn_blockChars h, blockOfLines_blockLines, blockChars_eq]

end SmellScan.Text
