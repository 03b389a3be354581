import Mathlib.Data.List.Basic
import SmellScan.Text.Lines

/-!
# Cutting and joining

Pieces without the separator, joined by it, are cut at the same places again (`split_intercalate`),
and what is cut never holds the separator. A text in which line ends are line feeds has no pair of
carriage return and line feed left (`joinReturns_universalNewlines`), and a text whose carriage
returns all stand in such pairs is the same whether the pairs or all line ends become line feeds
(`universalNewlines_eq_joinReturns`).
-/

namespace SmellScan.Text

variable {sep : Char} {cs : List Char}

theorem splitOn_eq (sep : Char) (cs : List Char) : splitOn sep cs = cs.splitOn sep := by
  rw [List.splitOn_eq_splitOnP]
  induction cs with
  | nil => rfl
  | cons c cs ih =>
    rw [splitOn, List.splitOnP_cons_eq_if_modifyHead, ih]
    by_cases hc : c = sep
    · simp [hc]
    · rw [if_neg hc, if_neg (by simpa using hc)]
      -- the library's pieces are never none, so the first case of the match is idle
      cases h : List.splitOnP (· == sep) cs with
      | nil => exact absurd h (List.splitOnP_ne_nil _ _)
      | cons piece pieces => rfl

theorem not_mem_of_mem_splitOn {piece : List Char} (h : piece ∈ splitOn sep cs) : sep ∉ piece := by
  induction cs generalizing piece with
  | nil =>
    rw [splitOn, List.mem_singleton] at h
    simp [h]
  | cons c cs ih =>
    rw [splitOn] at h
    split_ifs at h with hc
    · rcases List.mem_cons.1 h with rfl | h
      · exact List.not_mem_nil
      · exact ih h
    · split at h
      · simpa [List.mem_singleton.1 h] using Ne.symm hc
      · rename_i first pieces hsplit
        rw [hsplit] at ih
        rcases List.mem_cons.1 h with rfl | h
        · simpa using ⟨Ne.symm hc, ih List.mem_cons_self⟩
        · exact ih (List.mem_cons_of_mem _ h)

/-- **Pieces that are joined are cut apart again.** -/
theorem split_intercalate {pieces : List String} (hne : pieces ≠ [])
    (hpieces : ∀ piece ∈ pieces, sep ∉ piece.toList) :
    split sep ((String.singleton sep).intercalate pieces) = pieces := by
  have hcut : List.splitOn sep ([sep].intercalate (pieces.map String.toList)) =
      pieces.map String.toList :=
    List.splitOn_intercalate sep (by simpa using hpieces) (by simpa using hne)
  rw [split, String.toList_intercalate, String.toList_singleton, splitOn_eq, hcut, List.map_map]
  simp [Function.comp_def]

/-- What stands before the first separator is the first piece. -/
theorem splitOn_append_cons {piece : List Char} (h : sep ∉ piece) (cs : List Char) :
    splitOn sep (piece ++ sep :: cs) = piece :: splitOn sep cs := by
  have hpiece : ∀ c ∈ piece, (c == sep) = false := by
    intro c hc
    rw [beq_eq_false_iff_ne]
    rintro rfl
    exact h hc
  rw [splitOn_eq, splitOn_eq, List.splitOn_eq_splitOnP, List.splitOn_eq_splitOnP,
    List.splitOnP_append_cons_of_forall_mem hpiece sep (beq_self_eq_true sep)]

/-- **Lines that are written one after the other**, each with its line feed, are the lines of the
text and an empty one behind them. -/
theorem lines_join {texts : List String} (h : ∀ s ∈ texts, '\n' ∉ s.toList) :
    lines (String.join (texts.map (· ++ "\n"))) = texts ++ [""] := by
  induction texts with
  | nil => decide
  | cons s texts ih =>
    obtain ⟨hs, htexts⟩ := List.forall_mem_cons.1 h
    have hcut := splitOn_append_cons hs (String.join (texts.map (· ++ "\n"))).toList
    rw [List.map_cons, String.join_cons, lines, split, String.toList_append, String.toList_append,
      List.append_assoc]
    refine (congrArg (List.map String.ofList) hcut).trans ?_
    rw [List.map_cons, String.ofList_toList]
    exact congrArg (s :: ·) (ih htexts)

theorem not_mem_of_mem_split {s piece : String} (h : piece ∈ split sep s) :
    sep ∉ piece.toList := by
  obtain ⟨cs, hcs, rfl⟩ := List.mem_map.1 h
  rw [String.toList_ofList]
  exact not_mem_of_mem_splitOn hcs

/-! ## Joined pieces -/

theorem joinWith_eq (sep : List Char) (pieces : List (List Char)) :
    joinWith sep pieces = sep.intercalate pieces := by
  fun_induction joinWith sep pieces with
  | case1 => rfl
  | case2 piece => exact List.intercalate_singleton.symm
  | case3 piece pieces hne ih => rw [List.intercalate_cons_of_ne_nil hne, ih]

theorem splitOn_joinWith {pieces : List (List Char)} (hne : pieces ≠ [])
    (h : ∀ piece ∈ pieces, sep ∉ piece) : splitOn sep (joinWith [sep] pieces) = pieces := by
  rw [splitOn_eq, joinWith_eq]
  exact List.splitOn_intercalate sep h hne

theorem splitOn_of_not_mem (h : sep ∉ cs) : splitOn sep cs = [cs] :=
  @splitOn_joinWith sep [cs] (List.cons_ne_nil cs []) (by simpa using h)

theorem joinWith_splitOn (sep : Char) (cs : List Char) : joinWith [sep] (splitOn sep cs) = cs := by
  rw [splitOn_eq, joinWith_eq]
  exact List.intercalate_splitOn sep

theorem not_mem_joinWith {c : Char} {sep : List Char} (hc : c ∉ sep) {pieces : List (List Char)}
    (h : ∀ piece ∈ pieces, c ∉ piece) : c ∉ joinWith sep pieces := by
  fun_induction joinWith sep pieces with
  | case1 => exact List.not_mem_nil
  | case2 piece => exact h piece List.mem_cons_self
  | case3 piece pieces hne ih =>
    obtain ⟨hpiece, hpieces⟩ := List.forall_mem_cons.1 h
    simp [hpiece, hc, ih hpieces]

/-- There is one piece more than there are separators. -/
theorem length_splitOn (sep : Char) (cs : List Char) :
    (splitOn sep cs).length = cs.count sep + 1 := by
  induction cs with
  | nil => rfl
  | cons c cs ih =>
    rw [splitOn]
    split_ifs with hc
    · rw [List.length_cons, ih, hc, List.count_cons_self]
    · rw [List.count_cons_of_ne hc, ← ih]
      -- there is always a first piece, which the character joins
      cases hsplit : splitOn sep cs with
      | nil => simp [hsplit] at ih
      | cons piece pieces => rfl

/-! ## Line ends -/

theorem return_not_mem_universalNewlines (cs : List Char) : '\r' ∉ universalNewlines cs := by
  fun_induction universalNewlines cs with
  | case1 => exact List.not_mem_nil
  | case2 cs ih => simpa using ih
  | case3 c cs hpair ih =>
    rw [List.mem_cons, not_or]
    refine ⟨?_, ih⟩
    split_ifs with hc
    · decide
    · exact Ne.symm hc

theorem joinReturns_of_not_mem (h : '\r' ∉ cs) : joinReturns cs = cs := by
  fun_induction joinReturns cs with
  | case1 => rfl
  | case2 cs => exact absurd List.mem_cons_self h
  | case3 c cs hpair ih => rw [ih fun hmem => h (List.mem_cons_of_mem c hmem)]

/-- Line ends that are line feeds already are left as they are. -/
theorem joinReturns_universalNewlines (cs : List Char) :
    joinReturns (universalNewlines cs) = universalNewlines cs :=
  joinReturns_of_not_mem (return_not_mem_universalNewlines cs)

/-- Every carriage return stands directly before a line feed. -/
def ReturnsPaired (cs : List Char) : Prop :=
  ∀ i, cs[i]? = some '\r' → cs[i + 1]? = some '\n'

instance (cs : List Char) : Decidable (ReturnsPaired cs) :=
  decidable_of_iff (∀ i < cs.length, cs[i]? = some '\r' → cs[i + 1]? = some '\n')
    ⟨fun h i hi => h i (List.getElem?_eq_some_iff.1 hi).1 hi, fun h i _ hi => h i hi⟩

theorem ReturnsPaired.tail {c : Char} (h : ReturnsPaired (c :: cs)) : ReturnsPaired cs := by
  intro i hi
  simpa using h (i + 1) (by simpa using hi)

/-- **Where every return is paired, both ways of reading line ends agree.** -/
theorem universalNewlines_eq_joinReturns (h : ReturnsPaired cs) :
    universalNewlines cs = joinReturns cs := by
  fun_induction universalNewlines cs with
  | case1 => rfl
  | case2 cs ih => rw [joinReturns, ih h.tail.tail]
  | case3 c cs hpair ih =>
    have hc : c ≠ '\r' := by
      rintro rfl
      have hnext : cs[0]? = some '\n' := by simpa using h 0 (by simp)
      cases cs with
      | nil => simp at hnext
      | cons d cs => exact hpair cs rfl (by simpa using hnext)
    rw [joinReturns, if_neg hc, ih h.tail]
    exact hpair

theorem allBlank_universalNewlines (cs : List Char) :
    allBlank (universalNewlines cs) = allBlank cs := by
  have hreturn : isBlank '\r' = true := by decide
  have hfeed : isBlank '\n' = true := by decide
  unfold allBlank
  fun_induction universalNewlines cs with
  | case1 => rfl
  | case2 cs ih => simp only [List.all_cons, hreturn, hfeed, Bool.true_and, ih]
  | case3 c cs hpair ih =>
    rw [List.all_cons, List.all_cons, ih]
    split_ifs with hc
    · rw [hc, hreturn, hfeed]
    · rfl

end SmellScan.Text
