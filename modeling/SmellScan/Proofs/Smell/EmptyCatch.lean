import SmellScan.Proofs.Smell.CatchClause
import SmellScan.Proofs.Text.BlockLines

/-!
# Which catch clauses are reported

A clause is reported where its body is blank or its first ink is a line comment (`check_eq`).

A clause with nothing in it is reported wherever it follows a closing brace, whatever else the text
holds (`check_emptyClause`). A clause before it may be read further than it goes, but no further
than to the first closing brace, and so ends at that brace at the latest (`Spans.le_of_brace`).
-/

namespace SmellScan.Smell.EmptyCatch

open Text

/-- A body that is blank or whose first ink is a line comment. -/
def Reported (body : List Char) : Prop :=
  IsGap body ∨ ∃ w rest, IsGap w ∧ body = w ++ '/' :: '/' :: rest

/-- What is reported of a clause, given by its offset and its body. -/
def occurrence (cs : List Char) (clause : ℕ × List Char) : Occurrence where
  line := lineOf cs clause.1
  description := "Empty catch block found. Consider handling or logging the error."

/-- A catch clause with nothing but a gap between its braces. -/
def IsEmptyClause (clause : List Char) : Prop :=
  ∃ head inner, IsHead head ∧ IsGap inner ∧ clause = head ++ inner ++ ['\x7d']

variable {cs body : List Char}

/-! ## What is reported -/

theorem reported_iff : Reported body ↔
    trimLeft body = [] ∨ ∃ rest, trimLeft body = '/' :: '/' :: rest := by
  obtain ⟨v, hv, hbody⟩ := exists_gap body
  constructor
  · rintro (hgap | ⟨w, rest, hw, rfl⟩)
    · exact Or.inl (List.dropWhile_eq_nil_iff.2 hgap)
    · exact Or.inr ⟨rest, by rw [hw.trimLeft_append, trimLeft_cons (by decide)]⟩
  · rintro (hnil | ⟨rest, hrest⟩)
    · rw [hnil, List.append_nil] at hbody
      exact Or.inl (hbody ▸ hv)
    · exact Or.inr ⟨v, rest, hv, hrest ▸ hbody⟩

theorem isEmptyBody_iff : isEmptyBody body = true ↔ Reported body := by
  rw [reported_iff, isEmptyBody, trim]
  have hslash : isBlank '/' = false := by decide
  cases hbody : trimLeft body with
  | nil => simp [trimRight]
  | cons c rest =>
    have hc := isBlank_eq_false_of_trimLeft hbody
    rw [trimRight_cons hc]
    constructor
    · intro h
      split at h
      · rename_i hnil
        cases hnil
      · rename_i rest' hsplit
        obtain ⟨rfl, hrest⟩ := List.cons.inj hsplit
        obtain ⟨tail, htail⟩ := trimRight_isPrefix rest
        rw [hrest] at htail
        exact Or.inr ⟨rest' ++ tail, by rw [← htail]; rfl⟩
      · cases h
    · rintro (hnil | ⟨rest', hsplit⟩)
      · cases hnil
      · obtain ⟨rfl, rfl⟩ := List.cons.inj hsplit
        rw [trimRight_cons hslash]
        rfl

instance : DecidablePred Reported :=
  fun body => decidable_of_iff (isEmptyBody body = true) isEmptyBody_iff

/-- **The check reports the clauses of the scan that are blank or begin with a line comment.** -/
theorem check_eq (unit : SourceUnit) (config : Config) :
    check unit config = ((findAll clause? unit.text.toList).filter fun e => Reported e.2).map
      (occurrence unit.text.toList) := by
  rw [check, ← List.filterMap_eq_filter, List.map_filterMap]
  refine List.filterMap_congr fun e _ => ?_
  by_cases he : Reported e.2
  · simp [isEmptyBody_iff.2 he, he, Option.guard, occurrence]
  · simp [isEmptyBody_iff.not.2 he, he, Option.guard]

theorem mem_check {unit : SourceUnit} {config : Config} {o : Occurrence} :
    o ∈ check unit config ↔ ∃ e ∈ findAll clause? unit.text.toList,
      Reported e.2 ∧ o = occurrence unit.text.toList e := by
  rw [check_eq, List.mem_map]
  constructor
  · rintro ⟨e, he, rfl⟩
    obtain ⟨hmem, hreported⟩ := List.mem_filter.1 he
    exact ⟨e, hmem, of_decide_eq_true hreported, rfl⟩
  · rintro ⟨e, hmem, hreported, rfl⟩
    exact ⟨e, List.mem_filter.2 ⟨hmem, decide_eq_true hreported⟩, rfl⟩

/-! ## Clauses with nothing in them -/

/-- A clause that begins at a brace or before it ends at that brace at the latest. -/
theorem Spans.le_of_brace {before after : List Char} {start stop : ℕ}
    (h : Spans (before ++ '\x7d' :: after) start body stop) (hstart : start ≤ before.length) :
    stop ≤ before.length + 1 := by
  obtain ⟨pre, head, post, hsplit, hhead, hbody, rfl, rfl⟩ := h
  have hnot : '\x7d' ∉ head ++ body := by
    simp [hhead.not_mem, hbody]
  by_contra hlong
  -- otherwise the brace is a character of the clause before its last one
  have hget := congrArg (·[before.length]?) hsplit
  simp only [List.append_assoc] at hget
  rw [List.getElem?_append_right (Nat.le_refl _), List.getElem?_append_right hstart,
    ← List.append_assoc, List.getElem?_append_left (by simp; omega)] at hget
  simp only [Nat.sub_self, List.getElem?_cons_zero] at hget
  exact hnot (List.mem_of_getElem? hget.symm)

/-- No clause begins in a gap. -/
theorem Spans.not_isBlank {start stop : ℕ} (h : Spans cs start body stop) :
    ∃ c, cs[start]? = some c ∧ isBlank c = false := by
  obtain ⟨pre, head, post, rfl, hhead, -, rfl, -⟩ := h
  obtain ⟨rest, rfl⟩ := hhead.exists_cons
  exact ⟨'c', by simp, by decide⟩

/-- A clause behind a brace and a gap is one of those that the check sees. -/
theorem Spans.mem_findAll {before gap rest : List Char} {stop : ℕ} (hgap : IsGap gap)
    (h : Spans (before ++ '\x7d' :: (gap ++ rest)) (before.length + 1 + gap.length) body stop) :
    (before.length + 1 + gap.length, body) ∈
      findAll clause? (before ++ '\x7d' :: (gap ++ rest)) := by
  rcases (isScan_clauses _).complete _ _ _ (Nat.zero_le _) h with hmem | ⟨e, -, hlt, stop', he, hin⟩
  · exact hmem
  · -- a clause that would hide this one begins at the brace or before it, or in the gap
    exfalso
    by_cases hbrace : e.1 ≤ before.length
    · have hle := he.le_of_brace hbrace
      omega
    · obtain ⟨c, hc, hink⟩ := he.not_isBlank
      rw [List.getElem?_append_right (by omega), List.getElem?_cons, if_neg (by omega),
        List.getElem?_append_left (by omega)] at hc
      rw [hgap c (List.mem_of_getElem? hc)] at hink
      cases hink

/-- **A clause with nothing in it is reported wherever it follows a closing brace.** -/
theorem check_emptyClause (unit : SourceUnit) (config : Config)
    {before gap clause after : List Char}
    (htext : unit.text.toList = before ++ '\x7d' :: gap ++ clause ++ after) (hgap : IsGap gap)
    (hclause : IsEmptyClause clause) :
    ∃ o ∈ check unit config, o.line = (before ++ '\x7d' :: gap).count '\n' + 1 := by
  obtain ⟨head, inner, hhead, hinner, rfl⟩ := hclause
  let offset := before.length + 1 + gap.length
  have hoffset : offset = (before ++ '\x7d' :: gap).length := by
    rw [List.length_append, List.length_cons]
    omega
  have hcs : unit.text.toList =
      before ++ '\x7d' :: (gap ++ (head ++ inner ++ '\x7d' :: after)) := by
    simp [htext]
  have hspan : Spans unit.text.toList offset inner (offset + head.length + inner.length + 1) :=
    ⟨before ++ '\x7d' :: gap, head, after, by simp [hcs], hhead, hinner.not_mem (by decide),
      hoffset, rfl⟩
  have hfound : (offset, inner) ∈ findAll clause? unit.text.toList := by
    rw [hcs] at hspan ⊢
    exact hspan.mem_findAll hgap
  refine ⟨occurrence unit.text.toList (offset, inner), ?_, ?_⟩
  · exact mem_check.2 ⟨_, hfound, Or.inl hinner, rfl⟩
  · rw [occurrence, lineOf, htext, List.append_assoc (before ++ _), hoffset, List.take_left]
    rfl

/-- The clause before this one is read up to the brace in front of it. -/
theorem check_emptyClause_nested :
    let text := "try \x7b f(); \x7d catch \x7b try \x7b g(); \x7d\n  catch (e : E) \x7b \x7d \x7d"
    let unit : SourceUnit := ⟨"a.js", text, .javascript, none, none⟩
    let config : Config := { baseDir := .here }
    (findAll clause? text.toList).length = 2 ∧ ∃ o ∈ check unit config, o.line = 2 := by
  intro text unit config
  have htext : unit.text.toList =
      "try \x7b f(); \x7d catch \x7b try \x7b g(); ".toList ++ '\x7d' :: "\n  ".toList ++
        "catch (e : E) \x7b \x7d".toList ++ " \x7d".toList := by
    decide
  have hbinding : IsBinding "(e : E)".toList :=
    @IsBinding.typed [] ['e'] [' '] [' '] ['E'] [] (by decide) (by decide) (by decide) (by decide)
      (by decide) (by decide)
  have hhead : IsHead "catch (e : E) \x7b".toList :=
    @IsHead.intro [' '] _ [' '] (by decide) (Or.inr hbinding) (by decide)
  have hclause : IsEmptyClause "catch (e : E) \x7b \x7d".toList :=
    ⟨_, [' '], hhead, by decide, rfl⟩
  exact ⟨by decide, check_emptyClause unit config htext (by decide) hclause⟩

end SmellScan.Smell.EmptyCatch
