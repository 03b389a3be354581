import Mathlib.Data.List.Basic
import SmellScan.Report.Csv

/-!
# Reading comma separated values

A reader for the table as which a report is written (`Csv.read`). It goes over the text once and
knows of each character whether it stands in quotes: a comma or a line feed in quotes belongs to a
cell, and any other ends one. The reader is strict. It refuses a quote in the middle of a bare cell
and anything but the end of the cell behind a closing quote.

What is written is read back cell by cell (`run_cell`), record by record (`run_record`), and so as
a whole (`read_csv`), for a writer that quotes cells with carriage returns and for one that does
not. The cases of a cell are those of the writer: a bare cell holds none of the three characters
that mean something to the reader, and in a quoted cell every quote stands twice.
-/

namespace SmellScan.Report.Csv

/-! ## The reader -/

/-- Where a reader stands in a cell. -/
inductive Mode where
  /-- Before its first character. -/
  | start
  /-- In a cell without quotes. -/
  | bare
  /-- Between the quotes of a cell. -/
  | quoted
  /-- Behind a quote in a quoted cell: it ends the cell or is the first of two. -/
  | closing
  deriving DecidableEq, Repr

/-- What has been read. -/
structure State where
  mode : Mode := .start
  /-- The characters of the current cell. -/
  cell : List Char := []
  /-- The cells of the current record. -/
  row : List String := []
  /-- The records that are complete. -/
  rows : List (List String) := []
  deriving DecidableEq, Repr

namespace State

/-- The state with one more character in its cell. -/
def push (s : State) (mode : Mode) (c : Char) : State :=
  { s with mode, cell := s.cell ++ [c] }

/-- The state behind a comma. -/
def endCell (s : State) : State :=
  { s with mode := .start, cell := [], row := s.row ++ [String.ofList s.cell] }

/-- The state behind a line feed. -/
def endRecord (s : State) : State :=
  { rows := s.rows ++ [s.row ++ [String.ofList s.cell]] }

/-- The state behind one more character. -/
def step (s : State) (c : Char) : Option State :=
  if s.mode = .quoted then
    some (if c = '"' then { s with mode := .closing } else s.push .quoted c)
  else if c = ',' then some s.endCell
  else if c = '\n' then some s.endRecord
  else
    match s.mode with
    | .start => some (if c = '"' then { s with mode := .quoted } else s.push .bare c)
    | .closing => if c = '"' then some (s.push .quoted c) else none
    | _ => if c = '"' then none else some (s.push .bare c)

/-- The state behind a text. -/
def run (s : State) (cs : List Char) : Option State :=
  cs.foldlM step s

/-- The records at the end of a text. The last one may do without a line feed. -/
def finish? (s : State) : Option (List (List String)) :=
  match s.mode, s.row with
  | .quoted, _ => none
  | .start, [] => some s.rows
  | _, row => some (s.rows ++ [row ++ [String.ofList s.cell]])

end State

/-- The records of a text. -/
def read (s : String) : Option (List (List String)) :=
  (State.run {} s.toList).bind State.finish?

/-! ## Cells -/

section Cells

variable (text : List Char) (row : List String) (rows : List (List String)) (returns : Bool)

theorem run_nil (s : State) : s.run [] = some s := rfl

theorem run_cons (s : State) (c : Char) (cs : List Char) :
    s.run (c :: cs) = (s.step c).bind (·.run cs) := by
  rw [State.run, List.foldlM_cons]
  rfl

theorem run_append (s : State) (cs ds : List Char) :
    s.run (cs ++ ds) = (s.run cs).bind (·.run ds) := by
  rw [State.run, List.foldlM_append]
  rfl

/-- A text stands bare only if none of its characters means something. -/
theorem needsQuotes_cons {c : Char} {cs : List Char} (h : needsQuotes returns (c :: cs) = false) :
    (c ≠ ',' ∧ c ≠ '"' ∧ c ≠ '\n') ∧ needsQuotes returns cs = false := by
  simp only [needsQuotes, List.any_cons, Bool.or_eq_false_iff, beq_eq_false_iff_ne] at h ⊢
  obtain ⟨⟨⟨⟨hcomma, hquote⟩, hnewline⟩, -⟩, hcs⟩ := h
  exact ⟨⟨hcomma, hquote, hnewline⟩, hcs⟩

variable {returns}

theorem run_bare {cs : List Char} (hcs : needsQuotes returns cs = false) :
    State.run ⟨.bare, text, row, rows⟩ cs = some ⟨.bare, text ++ cs, row, rows⟩ := by
  induction cs generalizing text with
  | nil => rw [run_nil, List.append_nil]
  | cons c cs ih =>
    obtain ⟨⟨hcomma, hquote, hnewline⟩, hcs⟩ := needsQuotes_cons returns hcs
    have hstep : State.step ⟨.bare, text, row, rows⟩ c = some ⟨.bare, text ++ [c], row, rows⟩ := by
      simp [State.step, State.push, hcomma, hquote, hnewline]
    rw [run_cons, hstep, Option.bind_some, ih _ hcs, List.append_assoc, List.singleton_append]

theorem run_doubled (cs : List Char) :
    State.run ⟨.quoted, text, row, rows⟩ (doubled cs) = some ⟨.quoted, text ++ cs, row, rows⟩ := by
  induction cs generalizing text with
  | nil => rw [doubled, List.flatMap_nil, run_nil, List.append_nil]
  | cons c cs ih =>
    have hchar : State.run ⟨.quoted, text, row, rows⟩ (if c = '"' then ['"', '"'] else [c]) =
        some ⟨.quoted, text ++ [c], row, rows⟩ := by
      split_ifs with hc
      · subst hc
        rfl
      · simp [run_cons, run_nil, State.step, State.push, hc]
    rw [doubled, List.flatMap_cons, run_append, hchar, Option.bind_some]
    exact (ih _).trans (by rw [List.append_assoc, List.singleton_append])

variable (returns)

/-- **A cell is read back**, whether it needs quotes or not. -/
theorem run_cell (s : String) :
    ∃ mode, mode ≠ .quoted ∧
      State.run ⟨.start, [], row, rows⟩ (cell returns s) = some ⟨mode, s.toList, row, rows⟩ := by
  unfold cell
  split_ifs with hquotes
  · refine ⟨.closing, by decide, ?_⟩
    have hopen : State.step ⟨.start, [], row, rows⟩ '"' = some ⟨.quoted, [], row, rows⟩ := by
      simp [State.step]
    rw [run_cons, hopen, Option.bind_some, run_append, run_doubled, Option.bind_some]
    rfl
  · cases hs : s.toList with
    | nil => exact ⟨.start, by decide, rfl⟩
    | cons c cs =>
      rw [hs, Bool.not_eq_true] at hquotes
      obtain ⟨⟨hcomma, hquote, hnewline⟩, hcs⟩ := needsQuotes_cons returns hquotes
      have hfirst : State.step ⟨.start, [], row, rows⟩ c = some ⟨.bare, [c], row, rows⟩ := by
        simp [State.step, State.push, hcomma, hquote, hnewline]
      refine ⟨.bare, by decide, ?_⟩
      rw [run_cons, hfirst, Option.bind_some, run_bare _ _ _ hcs, List.singleton_append]

theorem step_comma {s : State} (hmode : s.mode ≠ .quoted) : s.step ',' = some s.endCell := by
  simp [State.step, hmode]

theorem step_newline {s : State} (hmode : s.mode ≠ .quoted) : s.step '\n' = some s.endRecord := by
  simp [State.step, hmode]

end Cells

/-! ## Records -/

variable (returns : Bool)

/-- **A record is read back**, behind cells that have been read before. -/
theorem run_record {row : List String} (hrow : row ≠ []) (before : List String)
    (rows : List (List String)) :
    State.run ⟨.start, [], before, rows⟩ (record returns row) =
      some ⟨.start, [], [], rows ++ [before ++ row]⟩ := by
  induction row generalizing before with
  | nil => exact absurd rfl hrow
  | cons s row ih =>
    obtain ⟨mode, hmode, hcell⟩ := run_cell before rows returns s
    cases row with
    | nil =>
      rw [record, cells, run_append, hcell, Option.bind_some, run_cons, step_newline hmode]
      simp [run_nil, State.endRecord]
    | cons next row =>
      have hnext := ih (List.cons_ne_nil _ _) (before ++ [s])
      have hcells : cells returns (s :: next :: row) =
          cell returns s ++ ',' :: cells returns (next :: row) := rfl
      rw [record] at hnext
      rw [record, hcells, List.append_assoc, List.cons_append, run_append, hcell, Option.bind_some,
        run_cons, step_comma hmode]
      simpa [State.endCell] using hnext

theorem run_table {table : List (List String)} (htable : ∀ row ∈ table, row ≠ [])
    (rows : List (List String)) :
    State.run ⟨.start, [], [], rows⟩ (table.flatMap (record returns)) =
      some ⟨.start, [], [], rows ++ table⟩ := by
  induction table generalizing rows with
  | nil => rw [List.flatMap_nil, run_nil, List.append_nil]
  | cons row table ih =>
    have hrow := run_record returns (htable row List.mem_cons_self) [] rows
    have hrest := ih (fun row h => htable row (List.mem_cons_of_mem _ h)) (rows ++ [row])
    rw [List.flatMap_cons, run_append, hrow, Option.bind_some, List.nil_append, hrest,
      List.append_assoc, List.singleton_append]

/-- **The table of a report can be read back.** Its first record names the columns. Behind it comes
one record for each finding, in the order of the report, with the texts of the finding as they are,
the number of its line in decimal, and the score of a near-copy. This holds whether or not a
carriage return makes the writer quote a cell. -/
theorem read_csv (r : Report) :
    read (r.csv returns) = some (["file", "line", "smell", "description", "fix", "similarity"] ::
      r.findings.map fun f => [f.file, toString f.line, f.smell, f.description, f.fix,
        (f.details.map fun d => d.similarity.fixed 4).getD ""]) := by
  have hrows : ∀ row ∈ rows r, row ≠ [] := by
    simp [rows, columns, Csv.row]
  have hrun : State.run {} (r.csv returns).toList = some { rows := rows r } := by
    rw [csv, String.toList_ofList]
    exact run_table returns hrows []
  have hrow : ∀ f, row f = [f.file, toString f.line, f.smell, f.description, f.fix,
      (f.details.map fun d => d.similarity.fixed 4).getD ""] := by
    intro f
    rw [row]
    cases f.details <;> rfl
  rw [read, hrun, Option.bind_some, rows, funext hrow]
  rfl

end SmellScan.Report.Csv
