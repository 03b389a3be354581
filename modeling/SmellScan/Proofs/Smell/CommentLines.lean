import SmellScan.Proofs.Smell.ByLine
import SmellScan.Proofs.Text.BlockLines
import SmellScan.Proofs.Text.Runs
import SmellScan.Proofs.Text.Scan
import SmellScan.Smell.LengthyLines

/-!
# Comment lines that hold code

Lines of comments may have any length. The comments of a line are found from left to right
(`comments`), and a line has code if some ink of it stands in none of them (`HasCode`). The check
judges by the two ends of a line: a line that begins with the opening of a block comment and ends
with the closing of one passes for a comment, whatever stands between them.

A line with code that begins so and ends so has two closings, and code may stand between its
comments (`Enclosed`). Of the lines with code, these are exempt and no others
(`HasCode.isCommentLine_iff`), so a lengthy one is reported if and only if it is not one of these
(`check_codeLine`).
-/

namespace SmellScan.Smell.LengthyLines

open Occurrence Text

/-! ## The comments of a line -/

/-- What stands before the first mark that closes a block comment, and what follows it. -/
def upToClose? : List Char → Option (List Char × List Char)
  | [] => none
  | '*' :: '/' :: cs => some ([], cs)
  | c :: cs => (upToClose? cs).map fun (note, rest) => (c :: note, rest)

/-- The comment at the start of a line, and what follows it. A line comment goes to the end of the
line and a block comment to the first mark that closes one, and braces right around a block comment
belong to it. -/
def comment? : List Char → Option (List Char × List Char)
  | '/' :: '/' :: note => some ('/' :: '/' :: note, [])
  | '/' :: '*' :: cs =>
    (upToClose? cs).map fun (note, rest) => ('/' :: '*' :: (note ++ ['*', '/']), rest)
  | '\x7b' :: '/' :: '*' :: cs =>
    match upToClose? cs with
    | some (note, '\x7d' :: rest) =>
      some ('\x7b' :: '/' :: '*' :: (note ++ ['*', '/', '\x7d']), rest)
    | _ => none
  | _ => none

/-- The comments of a line with their offsets. -/
def comments (line : List Char) : List (ℕ × List Char) :=
  findAll comment? line

/-- The character at the offset stands in a comment. -/
def InComment (line : List Char) (i : ℕ) : Prop :=
  ∃ e ∈ comments line, e.1 ≤ i ∧ i < e.1 + e.2.length

instance (line : List Char) (i : ℕ) : Decidable (InComment line i) :=
  inferInstanceAs (Decidable (∃ e ∈ comments line, _))

/-- Some ink of the line stands in none of its comments. -/
def HasCode (text : List Char) : Prop :=
  ∃ i c, text[i]? = some c ∧ isBlank c = false ∧ ¬InComment text i

/-- The marks that open and close a block comment, without braces and in braces. -/
def marks : List (List Char × List Char) :=
  [(['/', '*'], ['*', '/']), (['\x7b', '/', '*'], ['*', '/', '\x7d'])]

/-- The line begins with the mark that opens a block comment and ends with the one that closes it,
blanks aside, and the note stands between them. -/
def Between (note line : List Char) : Prop :=
  ∃ m ∈ marks, ∃ w w', IsGap w ∧ IsGap w' ∧ line = w ++ (m.1 ++ note ++ m.2 ++ w')

/-- The line stands between the opening of a block comment and the closing of another one. -/
def Enclosed (line : List Char) : Prop :=
  ∃ note, Between note line ∧ ['*', '/'] <:+: note

variable {cs note comment rest w w' : List Char}

theorem upToClose?_eq_some : upToClose? cs = some (note, rest) ↔
    ¬['*', '/'] <:+: note ∧ cs = note ++ '*' :: '/' :: rest := by
  fun_induction upToClose? cs generalizing note rest with
  | case1 => simp
  | case2 cs =>
    constructor
    · intro h
      obtain ⟨rfl, rfl⟩ := Prod.mk.inj (Option.some.inj h)
      exact ⟨by simp, rfl⟩
    · rintro ⟨hnote, hsplit⟩
      -- a note that is not empty would begin with the mark
      rcases note with _ | ⟨c, _ | ⟨d, note⟩⟩
      · simpa using hsplit
      · simp at hsplit
      · simp only [List.cons_append, List.cons.injEq] at hsplit
        obtain ⟨rfl, rfl, -⟩ := hsplit
        exact absurd ⟨[], note, rfl⟩ hnote
  | case3 c cs hopen ih =>
    simp only [Option.map_eq_some_iff, Prod.exists, Prod.mk.injEq, ih]
    constructor
    · rintro ⟨note, rest, ⟨hnote, rfl⟩, rfl, rfl⟩
      refine ⟨fun hin => ?_, rfl⟩
      rcases List.infix_cons_iff.1 hin with ⟨tail, htail⟩ | hin
      · simp only [List.cons_append, List.cons.injEq, List.nil_append] at htail
        obtain ⟨rfl, rfl⟩ := htail
        exact hopen _ rfl rfl
      · exact hnote hin
    · rintro ⟨hnote, hsplit⟩
      cases note with
      | nil =>
        obtain ⟨rfl, rfl⟩ := List.cons.inj hsplit
        exact absurd rfl (hopen rest rfl)
      | cons d note =>
        obtain ⟨rfl, rfl⟩ := List.cons.inj hsplit
        exact ⟨note, rest, ⟨fun hin => hnote (hin.trans (List.suffix_cons c note).isInfix), rfl⟩,
          rfl, rfl⟩

/-- A comment is what it is read from, and begins with ink. -/
theorem exists_of_comment? (h : comment? cs = some (comment, rest)) :
    cs = comment ++ rest ∧ ∃ c tail, comment = c :: tail ∧ isBlank c = false := by
  have hslash : isBlank '/' = false := by decide
  have hbrace : isBlank '\x7b' = false := by decide
  unfold comment? at h
  split at h
  · obtain ⟨rfl, rfl⟩ := Prod.mk.inj (Option.some.inj h)
    exact ⟨by simp, _, _, rfl, hslash⟩
  · obtain ⟨⟨note, behind⟩, hclose, hread⟩ := Option.map_eq_some_iff.1 h
    obtain ⟨rfl, rfl⟩ := Prod.mk.inj hread
    obtain ⟨-, rfl⟩ := upToClose?_eq_some.1 hclose
    exact ⟨by simp, _, _, rfl, hslash⟩
  · split at h
    · rename_i note behind hclose
      obtain ⟨rfl, rfl⟩ := Prod.mk.inj (Option.some.inj h)
      obtain ⟨-, rfl⟩ := upToClose?_eq_some.1 hclose
      exact ⟨by simp, _, _, rfl, hbrace⟩
    · cases h
  · cases h

theorem eats_comment? : Eats comment? := by
  intro cs comment rest h
  obtain ⟨hcs, c, tail, rfl, -⟩ := exists_of_comment? h
  exact ⟨c :: tail, List.cons_ne_nil c tail, hcs⟩

/-- A comment behind a gap is one of the line. -/
theorem mem_comments (hw : IsGap w) (h : comment? cs = some (comment, rest)) :
    (w.length, comment) ∈ comments (w ++ cs) := by
  obtain ⟨rfl, c, tail, rfl, -⟩ := exists_of_comment? h
  have hspan : SpansBy comment? (w ++ (c :: tail ++ rest)) w.length (c :: tail)
      (w.length + (c :: tail).length) := by
    refine ⟨by simp, by simp, ?_⟩
    rw [List.drop_left, h, ← List.append_assoc, ← List.length_append, List.drop_left]
  rcases (isScan_findAll eats_comment? _).complete _ _ _ (Nat.zero_le _) hspan with
    hmem | ⟨e, he, hlt, stop, hstop, -⟩
  · exact hmem
  · -- no comment begins in the gap
    exfalso
    obtain ⟨hcs, d, tail', hcomment, hink⟩ := exists_of_comment? hstop.2.2
    have hget : (w ++ (c :: tail ++ rest))[e.1]? = some d := by
      rw [← List.head?_drop, hcs, hcomment]
      rfl
    rw [List.getElem?_append_left hlt] at hget
    rw [hw d (List.mem_of_getElem? hget)] at hink
    cases hink

/-- A line of one comment between gaps has no code. -/
theorem not_hasCode (hw : IsGap w) (hw' : IsGap w') (h : comment? cs = some (comment, w')) :
    ¬HasCode (w ++ cs) := by
  rintro ⟨i, c, hget, hink, hout⟩
  refine hout ⟨_, mem_comments hw h, ?_⟩
  obtain ⟨rfl, -⟩ := exists_of_comment? h
  simp only
  constructor
  · by_contra hlt
    rw [List.getElem?_append_left (by omega)] at hget
    rw [hw c (List.mem_of_getElem? hget)] at hink
    cases hink
  · by_contra hge
    rw [List.getElem?_append_right (by omega), List.getElem?_append_right (by omega)] at hget
    rw [hw' c (List.mem_of_getElem? hget)] at hink
    cases hink

/-! ## Which lines pass for comments -/

/-- Blanks behind the last ink do not count for how a text ends. -/
theorem endsIn_iff {word : List Char} (hword : EndsInInk word) : endsIn word cs = true ↔
    ∃ note w', IsGap w' ∧ cs = note ++ word ++ w' := by
  rw [endsIn, List.isSuffixOf_iff_suffix]
  constructor
  · rintro ⟨note, hnote⟩
    refine ⟨note, cs.rtakeWhile isBlank, fun c hc => List.mem_rtakeWhile_imp hc, ?_⟩
    rw [hnote]
    exact List.rdropWhile_append_rtakeWhile.symm
  · rintro ⟨note, w', hw', rfl⟩
    have hends : EndsInInk (note ++ word) := (endsInInk_append note word).2 (Or.inl hword)
    rw [trimRight_append hw', hends.trimRight_eq]
    exact ⟨note, rfl⟩

/-- **A line passes for a comment by how it begins and, for a block comment, how it ends.** -/
theorem isCommentLine_iff {line : List Char} : isCommentLine line = true ↔
    (∃ w note, IsGap w ∧ line = w ++ '/' :: '/' :: note) ∨ ∃ note, Between note line := by
  have hslash : isBlank '/' = false := by decide
  have hbrace : isBlank '\x7b' = false := by decide
  have hplain : EndsInInk ['*', '/'] := ⟨'/', rfl, hslash⟩
  have hbraced : EndsInInk ['*', '/', '\x7d'] := ⟨'\x7d', rfl, by decide⟩
  constructor
  · intro h
    obtain ⟨w, hw, hline⟩ := exists_gap line
    unfold isCommentLine at h
    split at h
    · rename_i note hnote
      exact Or.inl ⟨w, note, hw, hnote ▸ hline⟩
    · rename_i text htext
      obtain ⟨note, w', hw', rfl⟩ := (endsIn_iff hplain).1 h
      exact Or.inr ⟨note, _, List.mem_cons_self, w, w', hw, hw',
        hline.trans (congrArg (w ++ ·) htext)⟩
    · rename_i text htext
      obtain ⟨note, w', hw', rfl⟩ := (endsIn_iff hbraced).1 h
      exact Or.inr ⟨note, _, List.mem_cons_of_mem _ List.mem_cons_self, w, w', hw, hw',
        hline.trans (congrArg (w ++ ·) htext)⟩
    · cases h
  · rintro (⟨w, note, hw, rfl⟩ | ⟨note, m, hm, w, w', hw, hw', rfl⟩)
    · rw [isCommentLine, hw.trimLeft_append, trimLeft_cons hslash]
      rfl
    · rw [isCommentLine, hw.trimLeft_append]
      simp only [marks, List.mem_cons, List.not_mem_nil, or_false] at hm
      rcases hm with rfl | rfl
      · exact (endsIn_iff hplain).2 ⟨note, w', hw', rfl⟩
      · exact (endsIn_iff hbraced).2 ⟨note, w', hw', rfl⟩

/-- A note without a closing mark is that of one comment. -/
theorem comment?_of_mem_marks {m : List Char × List Char} (hm : m ∈ marks)
    (hnote : ¬['*', '/'] <:+: note) (w' : List Char) :
    comment? (m.1 ++ note ++ m.2 ++ w') = some (m.1 ++ note ++ m.2, w') := by
  simp only [marks, List.mem_cons, List.not_mem_nil, or_false] at hm
  rcases hm with rfl | rfl
  · simp [comment?, upToClose?_eq_some.2 ⟨hnote, rfl⟩]
  · simp [comment?, upToClose?_eq_some.2 ⟨hnote, rfl⟩]

/-- **A line with code passes for a comment if it is enclosed by two of them**, and only then. -/
theorem HasCode.isCommentLine_iff {line : List Char} (hcode : HasCode line) :
    isCommentLine line = true ↔ Enclosed line := by
  rw [LengthyLines.isCommentLine_iff]
  constructor
  · rintro (⟨w, note, hw, rfl⟩ | ⟨note, hbetween⟩)
    · exact absurd hcode (not_hasCode hw (by simp [IsGap]) rfl)
    · refine ⟨note, hbetween, ?_⟩
      by_contra hnote
      obtain ⟨m, hm, w, w', hw, hw', rfl⟩ := hbetween
      exact not_hasCode hw hw' (comment?_of_mem_marks hm hnote w') hcode
  · rintro ⟨note, hbetween, -⟩
    exact Or.inr ⟨note, hbetween⟩

/-! ## What is reported of a line -/

theorem check_eq (unit : SourceUnit) (config : Config) :
    check unit config = byLine unit fun cs =>
      if isExempt cs then none else describe? config cs.length := by
  rw [check, byLine, List.filterMap_eq_flatMap_toList]
  congr 1
  funext e
  simp only [ofLine, String.length_toList]
  split_ifs <;> rfl

theorem exists_describe? {config : Config} {length : ℕ}
    (h : config.maxLineLength < length ∨ config.lineLengthWarning < length) :
    ∃ description, describe? config length = some description := by
  rw [describe?]
  split_ifs with hmax hwarning
  · exact ⟨_, rfl⟩
  · exact ⟨_, rfl⟩
  · exact absurd h (by simp [hmax, hwarning])

/-- **A lengthy line with code is reported if it is not enclosed by comments.** -/
theorem check_codeLine (unit : SourceUnit) (config : Config) {k : ℕ} {line : String}
    (hline : unit.lines[k]? = some line)
    (hattribute : anywhere startsClassAttribute line.toList = false)
    (hroute : anywhere startsRouteTag line.toList = false)
    (hlong : config.maxLineLength < line.length ∨ config.lineLengthWarning < line.length)
    (hcode : HasCode line.toList) :
    onLine (k + 1) (check unit config) ≠ [] ↔ ¬Enclosed line.toList := by
  have hexempt : isExempt line.toList = isCommentLine line.toList := by
    rw [isExempt, hattribute, hroute]
    rfl
  obtain ⟨description, hwrong⟩ := exists_describe? hlong
  rw [check_eq, onLine_byLine hline, hexempt, String.length_toList, hwrong,
    ← hcode.isCommentLine_iff]
  cases isCommentLine line.toList <;> simp [ofLine]

/-- A line that begins with a comment and goes on with code. -/
theorem check_codeLine_commentFirst :
    let line := "/* a */ call(); call(); // b"
    let unit : SourceUnit := ⟨"a.js", "load();\n" ++ line, .javascript, none, none⟩
    let config : Config := { baseDir := .here, maxLineLength := 24, lineLengthWarning := 16 }
    HasCode line.toList ∧ onLine 2 (check unit config) ≠ [] := by
  intro line unit config
  have hline : unit.lines[1]? = some line := by decide
  have hcode : HasCode line.toList := ⟨8, 'c', by decide, by decide, by decide⟩
  have hopen : ¬Enclosed line.toList := by
    rw [← hcode.isCommentLine_iff]
    decide
  have hreported := check_codeLine unit config hline (by decide) (by decide) (Or.inl (by decide))
    hcode
  exact ⟨hcode, hreported.2 hopen⟩

/-- A line above both limits that is not reported, since its code stands between two comments. -/
theorem check_codeLine_twoComments :
    let line := "/* a */ call(); /* b */"
    let unit : SourceUnit := ⟨"example.js", line, .javascript, none, none⟩
    let config : Config := { baseDir := .here, maxLineLength := 20, lineLengthWarning := 10 }
    unit.lines = [line] ∧ anywhere startsClassAttribute line.toList = false ∧
      anywhere startsRouteTag line.toList = false ∧ config.maxLineLength < line.length ∧
      config.lineLengthWarning < line.length ∧ HasCode line.toList ∧
      '\x27' ∉ line.toList ∧ '"' ∉ line.toList ∧ '\x60' ∉ line.toList ∧
      check unit config = [] := by
  intro line unit config
  have hcode : HasCode line.toList := ⟨8, 'c', by decide, by decide, by decide⟩
  exact ⟨by decide, by decide, by decide, by decide, by decide, hcode, by decide, by decide,
    by decide, by decide⟩

end SmellScan.Smell.LengthyLines
