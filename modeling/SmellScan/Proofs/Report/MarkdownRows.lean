import SmellScan.Proofs.Numeric.Digits
import SmellScan.Proofs.Report.Grouping
import SmellScan.Proofs.Smell.Registry
import SmellScan.Proofs.Text.LineStart
import SmellScan.Report.Markdown

/-!
# Rows of the Markdown tables

A row is cut at the bars that have no backslash before them, and in a cell `\|` stands for a bar.
Read in this way, the row of a finding gives its line, its smell and its description again, whatever
bars and backslashes the description holds (`readRow_markdownRow`).

Line feeds are another matter. They are written as they are, so a finding takes as many lines of the
report as its description has, and what is read from one line never holds a line feed
(`mem_of_readRow`). Findings have a line each just where no description has a line feed
(`markdown_rows`).
-/

namespace SmellScan

namespace Text

/-! ## Lines of joined texts -/

theorem splitOn_append_sep (sep : Char) (before after : List Char) :
    splitOn sep (before ++ sep :: after) = splitOn sep before ++ splitOn sep after := by
  obtain ⟨front, left, right, back, hbefore, hafter, hboth⟩ :=
    exists_splitOn_append sep before (sep :: after)
  rw [splitOn, if_pos rfl] at hafter
  obtain ⟨rfl, rfl⟩ := List.cons.inj hafter
  rw [hboth, hbefore, List.append_nil, List.append_assoc, List.singleton_append]

theorem splitOn_intercalate {sep : Char} {texts : List (List Char)} (hne : texts ≠ []) :
    splitOn sep ([sep].intercalate texts) = texts.flatMap (splitOn sep) := by
  induction texts with
  | nil => exact absurd rfl hne
  | cons text texts ih =>
    cases texts with
    | nil => rw [List.intercalate_singleton, List.flatMap_singleton]
    | cons next texts =>
      rw [List.intercalate_cons_cons, List.append_assoc, List.singleton_append, splitOn_append_sep,
        ih (List.cons_ne_nil next texts)]
      exact List.flatMap_cons.symm

/-- **Texts that are joined by line feeds** have the lines of one after those of the other. -/
theorem lines_intercalate {texts : List String} (hne : texts ≠ []) :
    lines ("\n".intercalate texts) = texts.flatMap lines := by
  have hsplit := @splitOn_intercalate '\n' (texts.map String.toList) (by simpa using hne)
  have htext : ("\n".intercalate texts).toList = ['\n'].intercalate (texts.map String.toList) :=
    String.toList_intercalate
  rw [lines, split, htext, hsplit, List.flatMap_map, List.map_flatMap]
  rfl

theorem lines_of_not_mem {s : String} (h : '\n' ∉ s.toList) : lines s = [s] := by
  rw [lines, split, splitOn_of_not_mem h, List.map_singleton, String.ofList_toList]

theorem length_lines (s : String) : (lines s).length = s.toList.count '\n' + 1 := by
  rw [lines, split, List.length_map, length_splitOn]

/-- A text is its lines, joined again. -/
theorem intercalate_lines (s : String) : "\n".intercalate (lines s) = s := by
  have hpieces : (lines s).map String.toList = splitOn '\n' s.toList := by
    rw [lines, split, List.map_map]
    simp [Function.comp_def]
  rw [← String.toList_inj, String.toList_intercalate, hpieces, splitOn_eq]
  exact List.intercalate_splitOn '\n'

/-- A number is written with digits and a sign. -/
theorem not_mem_toString {c : Char} (hdigit : isDigit c = false) (hsign : c ≠ '-') (i : ℤ) :
    c ∉ (toString i).toList := by
  have hnat : ∀ n : ℕ, c ∉ (Nat.repr n).toList := by
    intro n hc
    rw [Nat.toList_repr] at hc
    exact absurd (isDigit_of_mem_toDigits hc) (by simp [hdigit])
  cases i with
  | ofNat n => exact hnat n
  | negSucc n =>
    have htext : toString (Int.negSucc n) = "-" ++ Nat.repr (n + 1) := rfl
    rw [htext, String.toList_append]
    simpa [hsign] using hnat (n + 1)

theorem lines_append_toString {s : String} (h : '\n' ∉ s.toList) (i : ℤ) :
    lines (s ++ toString i) = [s ++ toString i] := by
  refine lines_of_not_mem ?_
  rw [String.toList_append, List.mem_append, not_or]
  exact ⟨h, not_mem_toString (by decide) (by decide) i⟩

end Text

namespace Report

/-! ## Reading a row -/

/-- What stands between the bars of a row. A bar directly behind a backslash is part of a cell. -/
def splitBars : List Char → List (List Char)
  | [] => [[]]
  | '\\' :: '|' :: cs => (splitBars cs).modifyHead (['\\', '|'] ++ ·)
  | c :: cs => if c = '|' then [] :: splitBars cs else (splitBars cs).modifyHead (c :: ·)

/-- The text of a cell, in which `\|` stands for a bar. -/
def unescapeBars : List Char → List Char
  | [] => []
  | '\\' :: '|' :: cs => '|' :: unescapeBars cs
  | c :: cs => c :: unescapeBars cs

/-- The text of a cell that has a blank on either side. -/
def readCell : List Char → Option String
  | ' ' :: cs =>
    if cs.getLast? = some ' ' then some (String.ofList (unescapeBars cs.dropLast)) else none
  | _ => none

/-- The texts of cells, up to the empty piece behind the last bar. -/
def readCells : List (List Char) → Option (List String)
  | [] => none
  | [[]] => some []
  | cell :: cells => (readCell cell).bind fun s => (readCells cells).map (s :: ·)

/-- The texts of the cells of a row that begins and ends with a bar. -/
def readRow (row : String) : Option (List String) :=
  match splitBars row.toList with
  | [] :: cells => readCells cells
  | _ => none

theorem splitBars_cons {c : Char} {cs : List Char} (hc : c ≠ '|') (hcs : cs.head? ≠ some '|') :
    splitBars (c :: cs) = (splitBars cs).modifyHead (c :: ·) := by
  rw [splitBars, if_neg hc]
  rintro cs rfl rfl
  exact hcs rfl

theorem unescapeBars_cons {c : Char} {cs : List Char} (hcs : cs.head? ≠ some '|') :
    unescapeBars (c :: cs) = c :: unescapeBars cs := by
  rw [unescapeBars]
  rintro cs rfl rfl
  exact hcs rfl

/-! ## Writing a row -/

/-- How a character is written in a cell. -/
def escapeBar (c : Char) : List Char :=
  if c = '|' then ['\\', '|'] else [c]

theorem toList_escapeBars (s : String) : (escapeBars s).toList = s.toList.flatMap escapeBar :=
  String.toList_ofList

/-- What is escaped does not begin with a bar, so a backslash before it stays one. -/
theorem head?_flatMap_escapeBar (cs : List Char) {rest : List Char}
    (hrest : rest.head? ≠ some '|') :
    (cs.flatMap escapeBar ++ rest).head? ≠ some '|' := by
  cases cs with
  | nil => exact hrest
  | cons c cs =>
    by_cases hc : c = '|' <;> simp [escapeBar, hc]

theorem flatMap_escapeBar_of_not_mem {cs : List Char} (h : '|' ∉ cs) :
    cs.flatMap escapeBar = cs := by
  refine (List.flatMap_congr fun c hc => ?_).trans (List.flatMap_singleton' cs)
  have hbar : c ≠ '|' := by
    rintro rfl
    exact h hc
  rw [escapeBar, if_neg hbar]

theorem unescapeBars_flatMap (cs : List Char) : unescapeBars (cs.flatMap escapeBar) = cs := by
  induction cs with
  | nil => rfl
  | cons c cs ih =>
    rw [List.flatMap_cons]
    by_cases hc : c = '|'
    · simp [escapeBar, hc, unescapeBars, ih]
    · have hnext := head?_flatMap_escapeBar cs (by simp : ([] : List Char).head? ≠ some '|')
      rw [List.append_nil] at hnext
      rw [escapeBar, if_neg hc, List.singleton_append, unescapeBars_cons hnext, ih]

theorem splitBars_flatMap_append (cs : List Char) {rest : List Char}
    (hrest : rest.head? ≠ some '|') :
    splitBars (cs.flatMap escapeBar ++ rest) =
      (splitBars rest).modifyHead (cs.flatMap escapeBar ++ ·) := by
  induction cs with
  | nil =>
    have hid : splitBars rest = (splitBars rest).modifyHead id := by rw [List.modifyHead_id, id]
    exact hid
  | cons c cs ih =>
    rw [List.flatMap_cons, List.append_assoc]
    by_cases hc : c = '|'
    · subst hc
      have hbar : escapeBar '|' = ['\\', '|'] := rfl
      rw [hbar, List.cons_append, List.cons_append, List.nil_append, splitBars, ih,
        List.modifyHead_modifyHead]
      rfl
    · rw [escapeBar, if_neg hc, List.singleton_append,
        splitBars_cons hc (head?_flatMap_escapeBar cs hrest), ih, List.modifyHead_modifyHead]
      rfl

/-- A cell with a blank on either side. -/
def padded (s : String) : List Char :=
  ' ' :: (s.toList.flatMap escapeBar ++ [' '])

theorem splitBars_padded_append (s : String) (rest : List Char) :
    splitBars (padded s ++ '|' :: rest) = padded s :: splitBars rest := by
  have hblank : ∀ cs : List Char, (' ' :: cs).head? ≠ some '|' := by
    intro cs
    simp
  have hend : splitBars (' ' :: '|' :: rest) = [' '] :: splitBars rest := rfl
  rw [padded, List.cons_append, List.append_assoc, List.singleton_append,
    splitBars_cons (by decide) (head?_flatMap_escapeBar _ (hblank _)),
    splitBars_flatMap_append _ (hblank _), hend]
  rfl

theorem splitBars_flatMap_padded (cells : List String) :
    splitBars (cells.flatMap fun s => padded s ++ ['|']) = cells.map padded ++ [[]] := by
  induction cells with
  | nil => rfl
  | cons s cells ih =>
    rw [List.flatMap_cons, List.append_assoc, List.singleton_append, splitBars_padded_append, ih]
    rfl

theorem readCell_padded (s : String) : readCell (padded s) = some s := by
  rw [padded, readCell, if_pos List.getLast?_concat, List.dropLast_concat, unescapeBars_flatMap,
    String.ofList_toList]

theorem readCells_padded (cells : List String) :
    readCells (cells.map padded ++ [[]]) = some cells := by
  induction cells with
  | nil => rfl
  | cons s cells ih =>
    rw [List.map_cons, List.cons_append, readCells, readCell_padded, ih]
    · rfl
    · rintro ⟨⟩

theorem markdownRow_eq (f : Finding) :
    markdownRow f = "| " ++ (toString f.line ++ (" | " ++ (f.smell ++ (" | " ++
      (escapeBars f.description ++ " |"))))) := by
  simp only [← String.append_assoc]
  rfl

/-- **The row of a finding gives its line, its smell and its description again.** -/
theorem readRow_markdownRow {f : Finding} (hsmell : '|' ∉ f.smell.toList) :
    readRow (markdownRow f) = some [toString f.line, f.smell, f.description] := by
  have hline : '|' ∉ (toString f.line).toList := Text.not_mem_toString (by decide) (by decide) _
  have hrow : (markdownRow f).toList =
      '|' :: [toString f.line, f.smell, f.description].flatMap fun s => padded s ++ ['|'] := by
    simp only [markdownRow_eq, String.toList_append, toList_escapeBars, List.flatMap_cons,
      List.flatMap_nil, padded, flatMap_escapeBar_of_not_mem hline,
      flatMap_escapeBar_of_not_mem hsmell, List.append_assoc, List.cons_append, List.nil_append]
    rfl
  have hsplit : splitBars (markdownRow f).toList =
      [] :: ([toString f.line, f.smell, f.description].map padded ++ [[]]) := by
    rw [hrow, ← splitBars_flatMap_padded]
    rfl
  rw [readRow, hsplit]
  exact readCells_padded _

/-! ## What can be read from a line -/

theorem mem_of_mem_unescapeBars {c : Char} {cs : List Char} (h : c ∈ unescapeBars cs) : c ∈ cs := by
  fun_induction unescapeBars cs with
  | case1 => exact h
  | case2 cs ih =>
    rcases List.mem_cons.1 h with rfl | h
    · simp
    · simp [ih h]
  | case3 d cs hpair ih =>
    rcases List.mem_cons.1 h with rfl | h
    · exact List.mem_cons_self
    · exact List.mem_cons_of_mem d (ih h)

/-- Of pieces, the first has something put in front. -/
theorem mem_of_mem_modifyHead {c : Char} {front piece : List Char} {pieces : List (List Char)}
    (hpiece : piece ∈ pieces.modifyHead (front ++ ·)) (hc : c ∈ piece) :
    c ∈ front ∨ ∃ piece ∈ pieces, c ∈ piece := by
  cases pieces with
  | nil => exact absurd hpiece List.not_mem_nil
  | cons first pieces =>
    rcases List.mem_cons.1 hpiece with rfl | hpiece
    · exact (List.mem_append.1 hc).imp_right fun hc => ⟨first, List.mem_cons_self, hc⟩
    · exact Or.inr ⟨piece, List.mem_cons_of_mem first hpiece, hc⟩

theorem mem_of_mem_splitBars {c : Char} {cs piece : List Char} (hpiece : piece ∈ splitBars cs)
    (hc : c ∈ piece) : c ∈ cs := by
  fun_induction splitBars cs generalizing piece with
  | case1 =>
    rw [List.mem_singleton.1 hpiece] at hc
    exact hc
  | case2 cs ih =>
    rcases mem_of_mem_modifyHead hpiece hc with hfront | ⟨piece, hpiece, hc⟩
    · exact List.mem_append_left cs hfront
    · exact List.mem_append_right ['\\', '|'] (ih hpiece hc)
  | case3 cs hpair ih =>
    rcases List.mem_cons.1 hpiece with rfl | hpiece
    · exact absurd hc List.not_mem_nil
    · exact List.mem_cons_of_mem _ (ih hpiece hc)
  | case4 d cs hpair hd ih =>
    have hpiece : piece ∈ (splitBars cs).modifyHead ([d] ++ ·) := hpiece
    rcases mem_of_mem_modifyHead hpiece hc with hfront | ⟨piece, hpiece, hc⟩
    · exact List.mem_append_left cs hfront
    · exact List.mem_cons_of_mem d (ih hpiece hc)

theorem mem_of_readCell {c : Char} {cell : List Char} {s : String} (h : readCell cell = some s)
    (hc : c ∈ s.toList) : c ∈ cell := by
  unfold readCell at h
  split at h
  · rename_i cs
    split_ifs at h
    rw [← Option.some.inj h, String.toList_ofList] at hc
    exact List.mem_cons_of_mem _ (List.mem_of_mem_dropLast (mem_of_mem_unescapeBars hc))
  · cases h

theorem mem_of_readCells {c : Char} {cells : List (List Char)} {texts : List String}
    (h : readCells cells = some texts) {s : String} (hs : s ∈ texts) (hc : c ∈ s.toList) :
    ∃ cell ∈ cells, c ∈ cell := by
  fun_induction readCells cells generalizing texts with
  | case1 => cases h
  | case2 =>
    obtain rfl := Option.some.inj h
    exact absurd hs List.not_mem_nil
  | case3 cell cells hlast ih =>
    obtain ⟨first, hfirst, h⟩ := Option.bind_eq_some_iff.1 h
    obtain ⟨rest, hrest, rfl⟩ := Option.map_eq_some_iff.1 h
    rcases List.mem_cons.1 hs with rfl | hs
    · exact ⟨cell, List.mem_cons_self, mem_of_readCell hfirst hc⟩
    · obtain ⟨cell', hcell, hc⟩ := ih hrest hs
      exact ⟨cell', List.mem_cons_of_mem cell hcell, hc⟩

/-- **What is read from a row stands in the row.** -/
theorem mem_of_readRow {c : Char} {row : String} {texts : List String}
    (h : readRow row = some texts) {s : String} (hs : s ∈ texts) (hc : c ∈ s.toList) :
    c ∈ row.toList := by
  unfold readRow at h
  split at h
  · rename_i cells hsplit
    obtain ⟨cell, hcell, hc⟩ := mem_of_readCells h hs hc
    exact mem_of_mem_splitBars (hsplit ▸ List.mem_cons_of_mem [] hcell) hc
  · cases h

/-! ## The rows of a report -/

theorem count_flatMap_escapeBar {c : Char} (hc : c ≠ '\\') (cs : List Char) :
    (cs.flatMap escapeBar).count c = cs.count c := by
  induction cs with
  | nil => rfl
  | cons d cs ih =>
    have hstep : (escapeBar d).count c = [d].count c := by
      by_cases hd : d = '|'
      · rw [hd, escapeBar, if_pos rfl, List.count_cons_of_ne (Ne.symm hc)]
      · rw [escapeBar, if_neg hd]
    rw [List.flatMap_cons, List.count_append, hstep, ih, ← List.count_append, List.singleton_append]

/-- A finding takes one line more than its description has line feeds. -/
theorem length_lines_markdownRow {f : Finding} (hsmell : '\n' ∉ f.smell.toList) :
    (Text.lines (markdownRow f)).length = f.description.toList.count '\n' + 1 := by
  have hline : '\n' ∉ (toString f.line).toList := Text.not_mem_toString (by decide) (by decide) _
  have hfirst : "| ".toList.count '\n' = 0 := by decide
  have hborder : " | ".toList.count '\n' = 0 := by decide
  have hlast : " |".toList.count '\n' = 0 := by decide
  rw [Text.length_lines, markdownRow_eq]
  simp only [String.toList_append, List.count_append, toList_escapeBars,
    count_flatMap_escapeBar (by decide : '\n' ≠ '\\'), List.count_eq_zero_of_not_mem hline,
    List.count_eq_zero_of_not_mem hsmell, hfirst, hborder, hlast]
  omega

/-- The lines of a report that come from its findings, in the place where they stand: behind the
heading of a file and of its table are the lines of its findings, in the order of the report, and
those of one finding are read as a row with its line, its smell and its description. -/
structure TabledBy (r : Report) (rows : Finding → List String) : Prop where
  lines : Text.lines r.markdown =
    Text.lines ("# Code Smell Report: " ++ r.root) ++
      ["", s!"**Files analyzed**: {r.filesAnalyzed}",
        s!"**Total code smells**: {r.findings.length}", ""] ++
      (keysOf Finding.file r.findings).flatMap (fun file =>
        Text.lines ("## " ++ file) ++ ["| Line | Smell | Defect |", "|---|---|---|"] ++
          (r.findings.filter (·.file = file)).flatMap rows ++ [""]) ++
      (markdownDiagnostics r.diagnostics).flatMap Text.lines
  cells : ∀ f ∈ r.findings,
    readRow ("\n".intercalate (rows f)) = some [toString f.line, f.smell, f.description]

theorem flatMap_lines_markdownSection (file : String) (fs : List Finding) :
    (markdownSection (file, fs)).flatMap Text.lines =
      Text.lines ("## " ++ file) ++ ["| Line | Smell | Defect |", "|---|---|---|"] ++
        fs.flatMap (fun f => Text.lines (markdownRow f)) ++ [""] := by
  have hcolumns : Text.lines "| Line | Smell | Defect |" = ["| Line | Smell | Defect |"] := by
    decide
  have hrule : Text.lines "|---|---|---|" = ["|---|---|---|"] := by decide
  have hempty : Text.lines "" = [""] := by decide
  rw [markdownSection, List.flatMap_append, List.flatMap_append, List.flatMap_map]
  simp only [List.flatMap_cons, List.flatMap_nil, hcolumns, hrule, hempty, List.append_nil,
    List.cons_append, List.nil_append]

theorem tabledBy_lines {r : Report}
    (hsmells : ∀ f ∈ r.findings, '|' ∉ f.smell.toList ∧ '\n' ∉ f.smell.toList) :
    r.TabledBy fun f => Text.lines (markdownRow f) where
  lines := by
    have hfiles : Text.lines s!"**Files analyzed**: {r.filesAnalyzed}" =
        [s!"**Files analyzed**: {r.filesAnalyzed}"] :=
      Text.lines_append_toString (by decide) r.filesAnalyzed
    have htotal : Text.lines s!"**Total code smells**: {r.findings.length}" =
        [s!"**Total code smells**: {r.findings.length}"] :=
      Text.lines_append_toString (by decide) (r.findings.length : ℤ)
    have hempty : Text.lines "" = [""] := rfl
    rw [markdown, Text.lines_intercalate (by simp [markdownLines]), markdownLines,
      List.flatMap_append, List.flatMap_append, byFile_eq, List.flatMap_map, List.flatMap_assoc]
    simp only [List.flatMap_cons, List.flatMap_nil, hfiles, htotal, hempty, List.append_nil,
      flatMap_lines_markdownSection, List.cons_append, List.nil_append]
    rfl
  cells := by
    intro f hf
    rw [Text.intercalate_lines]
    exact readRow_markdownRow (hsmells f hf).1

/-- The one line of a finding has no room for a line feed. -/
theorem TabledBy.newline_not_mem {r : Report} {rows : Finding → List String} (h : r.TabledBy rows)
    {f : Finding} (hf : f ∈ r.findings) (hone : (rows f).length = 1) :
    '\n' ∉ f.description.toList := by
  obtain ⟨row, hrow⟩ := List.length_eq_one_iff.1 hone
  have hmem : row ∈ Text.lines r.markdown := by
    have hrows : row ∈ (r.findings.filter (·.file = f.file)).flatMap rows :=
      List.mem_flatMap.2 ⟨f, List.mem_filter.2 ⟨hf, by simp⟩, by simp [hrow]⟩
    rw [h.lines, List.mem_append, List.mem_append, List.mem_flatMap]
    refine Or.inl (Or.inr ⟨f.file, mem_keysOf.2 ⟨f, hf, rfl⟩, ?_⟩)
    exact List.mem_append_left _ (List.mem_append_right _ hrows)
  have hcells := h.cells f hf
  rw [hrow, String.intercalate_singleton] at hcells
  exact fun hfeed => Text.not_mem_of_mem_split hmem (mem_of_readRow hcells (by simp) hfeed)

/-- Names of smells need no escape. -/
theorem not_mem_name (s : Smell) : '|' ∉ s.name.toList ∧ '\n' ∉ s.name.toList := by
  cases s <;> decide

/-- **Findings are rows, as long as their descriptions are lines.** In a report on known smells,
each finding is a row of the table of its file, in the order of the report, and is read back as it
is. It takes a line for each of its description, so all findings have one line just where no
description has a line feed. -/
theorem markdown_rows (r : Report) (hsmells : ∀ f ∈ r.findings, ∃ s : Smell, s.name = f.smell) :
    (∃ rows, r.TabledBy rows ∧
      ∀ f ∈ r.findings, (rows f).length = f.description.toList.count '\n' + 1) ∧
    ((∃ rows, r.TabledBy rows ∧ ∀ f ∈ r.findings, (rows f).length = 1) ↔
      ∀ f ∈ r.findings, '\n' ∉ f.description.toList) := by
  have hplain : ∀ f ∈ r.findings, '|' ∉ f.smell.toList ∧ '\n' ∉ f.smell.toList := by
    intro f hf
    obtain ⟨s, hs⟩ := hsmells f hf
    exact hs ▸ not_mem_name s
  have htabled := tabledBy_lines hplain
  have hlength : ∀ f ∈ r.findings,
      (Text.lines (markdownRow f)).length = f.description.toList.count '\n' + 1 :=
    fun f hf => length_lines_markdownRow (hplain f hf).2
  refine ⟨⟨_, htabled, hlength⟩, ?_, fun hlines => ⟨_, htabled, fun f hf => ?_⟩⟩
  · rintro ⟨rows, hrows, hone⟩ f hf
    exact hrows.newline_not_mem hf (hone f hf)
  · rw [hlength f hf, List.count_eq_zero_of_not_mem (hlines f hf)]

/-- Bars and backslashes in descriptions, of findings in two files that take turns. -/
theorem markdown_rows_bars :
    let finding (file : String) (line : ℤ) (description : String) : Finding :=
      ⟨file, line, "Long Method/Function", description, "split it", none⟩
    let r : Report :=
      { root := "/", findings := [finding "b" 7 "a|b", finding "a" 3 "\\|c\\", finding "b" 2 "|"] }
    (∀ f ∈ r.findings, ∃ s : Smell, s.name = f.smell) ∧
      (∀ f ∈ r.findings, '\n' ∉ f.description.toList) ∧
      (∃ rows, r.TabledBy rows ∧ ∀ f ∈ r.findings, (rows f).length = 1) ∧
      r.byFile.flatMap markdownSection =
        ["## b", "| Line | Smell | Defect |", "|---|---|---|",
          "| 7 | Long Method/Function | a\\|b |", "| 2 | Long Method/Function | \\| |", "",
          "## a", "| Line | Smell | Defect |", "|---|---|---|",
          "| 3 | Long Method/Function | \\\\|c\\ |", ""] := by
  intro finding r
  have hsmells : ∀ f ∈ r.findings, ∃ s : Smell, s.name = f.smell := by
    intro f hf
    exact ⟨.longFunction, (by decide : ∀ f ∈ r.findings, Smell.longFunction.name = f.smell) f hf⟩
  have hlines : ∀ f ∈ r.findings, '\n' ∉ f.description.toList := by decide
  exact ⟨hsmells, hlines, (markdown_rows r hsmells).2.2 hlines, by decide⟩

/-- A method whose computed name goes over two lines is found to be long, and no line of the report
is the row of that finding. -/
theorem markdown_rows_computedName :
    let method : SyntaxNode :=
      .mk ⟨.classMethod, "method_definition", some 2, some "[a +\nb]",
        some "[a +\nb]() \x7b\nf();\n\x7d"⟩ .none [] []
    let unit : SourceUnit :=
      ⟨"/a.js", "class A \x7b\n[a +\nb]() \x7b\nf();\n\x7d\n\x7d", .javascript, some method, none⟩
    let config : Config := { baseDir := .here, maxFunctionLines := 1 }
    let r : Report := { root := "/a.js", findings := Smell.longFunction.run unit config }
    (∀ f ∈ r.findings, ∃ s : Smell, s.name = f.smell) ∧
      ¬∃ rows, r.TabledBy rows ∧ ∀ f ∈ r.findings, (rows f).length = 1 := by
  intro method unit config r
  have hfindings : r.findings = [⟨"/a.js", 2, "Long Method/Function",
      "Function '[a +\nb]' exceeds 1 lines. Consider refactoring it into smaller functions.",
      Smell.longFunction.fix, none⟩] := by
    have hfunctions : method.functions = [method] := by
      rw [SyntaxNode.functions, SyntaxNode.functionsFrom]
      change method :: SyntaxNode.functionsFrom [] = [method]
      rw [SyntaxNode.functionsFrom]
    change (method.functions.filterMap (Smell.LongFunction.occurrence? config)).map
      (Smell.longFunction.finding "/a.js") = _
    rw [hfunctions]
    rfl
  refine ⟨fun f hf => ⟨.longFunction, (Smell.smell_of_mem_run hf).symm⟩, ?_⟩
  rintro ⟨rows, htabled, hone⟩
  have hmem := hfindings ▸ List.mem_cons_self
  exact htabled.newline_not_mem hmem (hone _ hmem) (by decide)

end Report

end SmellScan
