import Mathlib.Tactic.MkIffOfInductiveProp
import SmellScan.Proofs.Smell.EmptyCatch

/-!
# Catch clauses that only hold comments

The check for empty catch blocks is described as one for blocks that are empty or only hold a
comment. `OnlyComments` says which bodies these are. The check judges a body by how it begins, and
misjudges two kinds of body and no others (`reported_iff_onlyComments`):

* a body with code below a line comment, which is reported;
* a body of comments of which the first is a block comment, which is not reported.

A text without such bodies is reported as described, and in every other text the clauses without
such bodies are (`check_onlyComments`).
-/

namespace SmellScan.Smell.EmptyCatch

open Text

/-- Blanks and comments and nothing else. A line comment goes up to a line feed or to the end of the
text, and a block comment up to the first mark that closes one. -/
@[mk_iff]
inductive OnlyComments : List Char → Prop where
  | nil : OnlyComments []
  | blank (c : Char) (cs : List Char) (hc : isBlank c = true) (h : OnlyComments cs) :
      OnlyComments (c :: cs)
  | line (note cs : List Char) (hnote : '\n' ∉ note) (hcs : cs = [] ∨ ∃ rest, cs = '\n' :: rest)
      (h : OnlyComments cs) : OnlyComments ('/' :: '/' :: (note ++ cs))
  | block (note cs : List Char) (hnote : ¬['*', '/'] <:+: note) (h : OnlyComments cs) :
      OnlyComments ('/' :: '*' :: (note ++ '*' :: '/' :: cs))

/-- The bodies that the check does not judge by its description. -/
inductive Misjudged : List Char → Prop where
  | codeBelow (w note rest : List Char) (hw : IsGap w) (hnote : '\n' ∉ note)
      (hrest : ¬OnlyComments rest) : Misjudged (w ++ '/' :: '/' :: (note ++ '\n' :: rest))
  | blockFirst (w rest : List Char) (hw : IsGap w) (h : OnlyComments ('/' :: '*' :: rest)) :
      Misjudged (w ++ '/' :: '*' :: rest)

/-- The check reports the clauses of a unit that its description names, and reports no other. -/
def GoesByDescription (unit : SourceUnit) (config : Config) : Prop :=
  ∀ found, IsScan (Spans unit.text.toList) 0 found →
    (∀ o ∈ check unit config, ∃ e ∈ found, OnlyComments e.2 ∧ o = occurrence unit.text.toList e) ∧
      ∀ e ∈ found, OnlyComments e.2 → occurrence unit.text.toList e ∈ check unit config

variable {c : Char} {cs w note rest body : List Char}

/-! ## Texts of comments -/

theorem onlyComments_cons_of_isBlank (hc : isBlank c = true) :
    OnlyComments (c :: cs) ↔ OnlyComments cs := by
  have hslash : c ≠ '/' := by
    rintro rfl
    cases hc
  rw [onlyComments_iff]
  simp [hc, hslash]

theorem onlyComments_gap_append (hw : IsGap w) : OnlyComments (w ++ cs) ↔ OnlyComments cs := by
  induction w with
  | nil => rfl
  | cons c w ih =>
    rw [List.cons_append, onlyComments_cons_of_isBlank (hw c List.mem_cons_self)]
    exact ih fun d hd => hw d (List.mem_cons_of_mem c hd)

/-- Text that begins with ink begins with a comment if it is one of comments. -/
theorem OnlyComments.exists_of_ink (h : OnlyComments (c :: cs)) (hc : isBlank c = false) :
    c = '/' ∧ ∃ rest, cs = '/' :: rest ∨ cs = '*' :: rest := by
  generalize htext : c :: cs = text at h
  cases h with
  | nil => cases htext
  | blank d ds hd h =>
    obtain ⟨rfl, -⟩ := List.cons.inj htext
    rw [hd] at hc
    cases hc
  | line note ds hnote hds h =>
    obtain ⟨rfl, rfl⟩ := List.cons.inj htext
    exact ⟨rfl, _, Or.inl rfl⟩
  | block note ds hnote h =>
    obtain ⟨rfl, rfl⟩ := List.cons.inj htext
    exact ⟨rfl, _, Or.inr rfl⟩

theorem onlyComments_trimLeft : OnlyComments (trimLeft body) ↔ OnlyComments body := by
  obtain ⟨w, hw, hbody⟩ := exists_gap body
  conv_rhs => rw [hbody]
  exact (onlyComments_gap_append hw).symm

theorem onlyComments_line (hnote : '\n' ∉ note) : OnlyComments ('/' :: '/' :: note) := by
  have h := OnlyComments.line note [] hnote (Or.inl rfl) .nil
  rwa [List.append_nil] at h

/-- Behind a line comment it is the lines below that count. -/
theorem onlyComments_line_append (hnote : '\n' ∉ note) :
    OnlyComments ('/' :: '/' :: (note ++ '\n' :: rest)) ↔ OnlyComments rest := by
  have hfeed : OnlyComments ('\n' :: rest) ↔ OnlyComments rest :=
    onlyComments_cons_of_isBlank (by decide)
  rw [← hfeed]
  constructor
  · intro h
    generalize htext : '/' :: '/' :: (note ++ '\n' :: rest) = text at h
    cases h with
    | nil => cases htext
    | blank d ds hd h =>
      obtain ⟨rfl, -⟩ := List.cons.inj htext
      cases hd
    | line note' ds hnote' hds h =>
      have hsplit : note ++ '\n' :: rest = note' ++ ds := by
        injection htext with _ htext
        injection htext
      rcases hds with rfl | ⟨rest', rfl⟩
      · exact absurd (List.append_nil note' ▸ hsplit ▸ by simp) hnote'
      · -- both notes go up to the first line feed
        have hread : upTo? '\n' (note ++ '\n' :: rest) = some (note', rest') :=
          upTo?_eq_some.2 ⟨hnote', hsplit⟩
        rw [upTo?_eq_some.2 ⟨hnote, rfl⟩] at hread
        obtain ⟨-, rfl⟩ := Prod.mk.inj (Option.some.inj hread)
        exact h
    | block note' ds hnote' h => simp at htext
  · exact OnlyComments.line note _ hnote (Or.inr ⟨rest, rfl⟩)

/-! ## Which bodies are misjudged -/

theorem misjudged_iff : Misjudged body ↔
    (∃ note rest, '\n' ∉ note ∧ trimLeft body = '/' :: '/' :: (note ++ '\n' :: rest) ∧
      ¬OnlyComments rest) ∨
    ∃ rest, trimLeft body = '/' :: '*' :: rest ∧ OnlyComments ('/' :: '*' :: rest) := by
  have hslash : isBlank '/' = false := by decide
  obtain ⟨v, hv, hbody⟩ := exists_gap body
  constructor
  · rintro (⟨w, note, rest, hw, hnote, hrest⟩ | ⟨w, rest, hw, h⟩)
    · exact Or.inl ⟨note, rest, hnote, by rw [hw.trimLeft_append, trimLeft_cons hslash], hrest⟩
    · exact Or.inr ⟨rest, by rw [hw.trimLeft_append, trimLeft_cons hslash], h⟩
  · rintro (⟨note, rest, hnote, htrim, hrest⟩ | ⟨rest, htrim, h⟩)
    · rw [hbody, htrim]
      exact .codeBelow v note rest hv hnote hrest
    · rw [hbody, htrim]
      exact .blockFirst v rest hv h

/-- What is reported is one of comments unless code stands below the first. -/
theorem Reported.onlyComments_iff (h : Reported body) : OnlyComments body ↔ ¬Misjudged body := by
  rw [reported_iff] at h
  rw [← onlyComments_trimLeft, misjudged_iff]
  rcases h with htrim | ⟨text, htrim⟩
  · simp [htrim, OnlyComments.nil]
  · constructor
    · rintro honly (⟨note, rest, hnote, hsplit, hrest⟩ | ⟨rest, hsplit, -⟩)
      · rw [hsplit, onlyComments_line_append hnote] at honly
        exact hrest honly
      · simp [htrim] at hsplit
    · intro hjudged
      rw [htrim]
      by_cases hfeed : '\n' ∈ text
      · obtain ⟨note, rest, rfl, hnote⟩ := List.eq_append_cons_of_mem hfeed
        rw [onlyComments_line_append hnote]
        by_contra hrest
        exact hjudged (Or.inl ⟨note, rest, hnote, htrim, hrest⟩)
      · exact onlyComments_line hfeed

/-- What is not reported and is one of comments begins with a block comment. -/
theorem onlyComments_iff_of_not_reported (h : ¬Reported body) :
    OnlyComments body ↔ Misjudged body := by
  rw [reported_iff, not_or] at h
  obtain ⟨hblank, hline⟩ := h
  rw [← onlyComments_trimLeft, misjudged_iff]
  constructor
  · intro honly
    obtain ⟨c, text, htrim⟩ := List.exists_cons_of_ne_nil hblank
    rw [htrim] at honly
    obtain ⟨rfl, rest, rfl | rfl⟩ := honly.exists_of_ink (isBlank_eq_false_of_trimLeft htrim)
    · exact absurd ⟨rest, htrim⟩ hline
    · exact Or.inr ⟨rest, htrim, honly⟩
  · rintro (⟨note, rest, -, hsplit, -⟩ | ⟨rest, hsplit, honly⟩)
    · exact absurd ⟨_, hsplit⟩ hline
    · rwa [hsplit]

/-- **A body is judged as described if and only if it is of neither of the two kinds.** -/
theorem reported_iff_onlyComments : (Reported body ↔ OnlyComments body) ↔ ¬Misjudged body := by
  by_cases h : Reported body
  · rw [h.onlyComments_iff]
    simp [h]
  · rw [onlyComments_iff_of_not_reported h]
    simp [h]

/-! ## The check and its description -/

section

variable {unit : SourceUnit} {config : Config}

/-- Where no body is misjudged the check goes by its description. -/
theorem goesByDescription_of_judged
    (h : ∀ e ∈ findAll clause? unit.text.toList, ¬Misjudged e.2) :
    GoesByDescription unit config := by
  intro found hfound
  obtain rfl := isScan_iff.1 hfound
  refine ⟨fun o ho => ?_, fun e he honly => ?_⟩
  · obtain ⟨e, he, hreported, rfl⟩ := mem_check.1 ho
    exact ⟨e, he, (reported_iff_onlyComments.2 (h e he)).1 hreported, rfl⟩
  · exact mem_check.2 ⟨e, he, (reported_iff_onlyComments.2 (h e he)).2 honly, rfl⟩

/-- Where each clause has a line of its own, a body that is misjudged shows in what is reported. -/
theorem GoesByDescription.judged (h : GoesByDescription unit config)
    (hlines : ((findAll clause? unit.text.toList).map
      fun e => lineOf unit.text.toList e.1).Nodup) :
    ∀ e ∈ findAll clause? unit.text.toList, ¬Misjudged e.2 := by
  have hinj : ∀ d ∈ findAll clause? unit.text.toList, ∀ e ∈ findAll clause? unit.text.toList,
      occurrence unit.text.toList d = occurrence unit.text.toList e → d = e := by
    intro d hd e he hsame
    have hline : lineOf unit.text.toList d.1 = lineOf unit.text.toList e.1 :=
      Int.ofNat.inj (congrArg Occurrence.line hsame)
    exact List.inj_on_of_nodup_map hlines hd he hline
  obtain ⟨hreports, hreported⟩ := h _ (isScan_clauses _)
  intro e he
  refine reported_iff_onlyComments.1 ⟨fun hrep => ?_, fun honly => ?_⟩
  · obtain ⟨d, hd, honly, hsame⟩ := hreports _ (mem_check.2 ⟨e, he, hrep, rfl⟩)
    obtain rfl := hinj e he d hd hsame
    exact honly
  · obtain ⟨d, hd, hrep, hsame⟩ := mem_check.1 (hreported e he honly)
    obtain rfl := hinj e he d hd hsame
    exact hrep

end

/-- **The check reports the clauses that are blank or begin with a line comment.** On a clause that
is not misjudged this is what the description says, and on the others it is the opposite. So the
check goes by its description where there are no others, and, if each clause has a line of its own,
only there. -/
theorem check_onlyComments (unit : SourceUnit) (config : Config) :
    ∃ found, (∀ l, IsScan (Spans unit.text.toList) 0 l ↔ l = found) ∧
      check unit config =
        (found.filter fun e => Reported e.2).map (occurrence unit.text.toList) ∧
      (∀ e ∈ found, (Reported e.2 ↔ OnlyComments e.2) ↔ ¬Misjudged e.2) ∧
      ((∀ e ∈ found, ¬Misjudged e.2) → GoesByDescription unit config) ∧
      ((found.map fun e => lineOf unit.text.toList e.1).Nodup →
        GoesByDescription unit config → ∀ e ∈ found, ¬Misjudged e.2) :=
  ⟨findAll clause? unit.text.toList, fun _ => isScan_iff, check_eq unit config,
    fun _ _ => reported_iff_onlyComments, goesByDescription_of_judged,
    fun hlines h => h.judged hlines⟩

/-- Code below a line comment is reported, and a block comment with nothing else is not. -/
theorem check_onlyComments_misjudges :
    let config : Config := { baseDir := .here }
    let handled := "try \x7b f(); \x7d catch (e) \x7b // note\n g(e); \x7d"
    let ignored := "try \x7b f(); \x7d catch (e) \x7b /* ignored */ \x7d"
    ¬GoesByDescription ⟨"example.js", handled, .javascript, none, none⟩ config ∧
      ¬GoesByDescription ⟨"example.js", ignored, .javascript, none, none⟩ config := by
  intro config handled ignored
  have hblank : isBlank ' ' = true := by decide
  constructor
  · intro h
    have hfound : findAll clause? handled.toList = [(13, " // note\n g(e); ".toList)] := by decide
    have hcode : ¬OnlyComments " g(e); ".toList := by
      intro honly
      have hink := (onlyComments_cons_of_isBlank hblank).1 honly
      exact absurd (hink.exists_of_ink (by decide)).1 (by decide)
    refine h.judged (by rw [hfound]; simp) _ (hfound ▸ List.mem_cons_self) ?_
    exact .codeBelow [' '] " note".toList " g(e); ".toList (by decide) (by decide) hcode
  · intro h
    have hfound : findAll clause? ignored.toList = [(13, " /* ignored */ ".toList)] := by decide
    have hnote : ¬['*', '/'] <:+: " ignored ".toList :=
      fun hin => absurd (hin.mem List.mem_cons_self) (by decide)
    have honly : OnlyComments "/* ignored */ ".toList :=
      .block " ignored ".toList [' '] hnote (.blank ' ' [] hblank .nil)
    refine h.judged (by rw [hfound]; simp) _ (hfound ▸ List.mem_cons_self) ?_
    exact .blockFirst [' '] " ignored */ ".toList (by decide) honly

end SmellScan.Smell.EmptyCatch
