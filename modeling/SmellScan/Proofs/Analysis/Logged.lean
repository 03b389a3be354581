import SmellScan.Analysis
import SmellScan.Proofs.Analysis.Batch
import SmellScan.Proofs.Analysis.Directory
import SmellScan.Proofs.RunLog.Events

/-!
# Runs and their log

A run with a report has an event for each file with a diagnostic and one for the whole run
(`analyzePath_cases`); a run that ends before any file is analysed has none. The main statement
(`record_analyzePath`) says what the log file of the day holds afterwards: what it held before, and
behind it one line for each diagnostic of the report, in the order of the report, and a last line
with the figures of the report. Each line has the time of its own event. A run for an unknown smell,
or without a target that can be analysed, leaves the file system as it was.
-/

namespace SmellScan.Analysis

/-! ## The entries of a run -/

/-- What the log says of a diagnostic at a time. -/
def diagnosticEntry (stamp : Timestamp) (d : Diagnostic) : Json :=
  .obj [("event_type", .str "analysis.parse_failure"),
    ("data", .obj [("message", .str d.message)]), ("file_path", .str d.file),
    ("duration_ms", .null), ("timestamp", .str stamp.iso)]

/-- What the log says at a time of a run that ended with a report. -/
def reportEntry (clock : Clock) (stamp : Timestamp) (target : Path) (report : Report) : Json :=
  .obj [("event_type", .str "analysis.run"),
    ("data", .obj [("status", .str "success"), ("files", .int report.filesAnalyzed),
      ("findings", .int report.findings.length),
      ("parse_failures", .int report.diagnostics.length)]),
    ("file_path", .str target.toString), ("duration_ms", .int clock.milliseconds),
    ("timestamp", .str stamp.iso)]

/-- What the log says of the diagnostics of a report and of the run, each with the time that is read
for it. The time is read twice for each entry. -/
def entries (clock : Clock) (target : Path) (report : Report) : List Json :=
  report.diagnostics.zipIdx.map (fun p => diagnosticEntry (clock.now (2 * p.2)) p.1) ++
    [reportEntry clock (clock.now (2 * report.diagnostics.length)) target report]

theorem entries_of_singleton {clock : Clock} {target : Path} {report : Report} {d : Diagnostic}
    (h : report.diagnostics = [d]) :
    entries clock target report = [diagnosticEntry (clock.now 0) d,
      reportEntry clock (clock.now 2) target report] := by
  rw [entries, h]
  rfl

/-- The event of a diagnostic. -/
def diagnosticEvent (d : Diagnostic) : Event :=
  { type := "analysis.parse_failure", data := .obj [("message", .str d.message)],
    file := some d.file }

/-- The event of a run that ended with a report. -/
def reportEvent (clock : Clock) (target : Path) (report : Report) : Event :=
  runEvent target [("files", .int report.filesAnalyzed), ("findings", .int report.findings.length),
    ("parse_failures", .int report.diagnostics.length)] none clock

theorem finiteFloats_diagnosticEvent (d : Diagnostic) :
    Json.FiniteFloats (diagnosticEvent d).data := by
  refine .obj ?_
  simp only [List.forall_mem_cons]
  exact ⟨.str _, by simp⟩

theorem finiteFloats_reportEvent (clock : Clock) (target : Path) (report : Report) :
    Json.FiniteFloats (reportEvent clock target report).data := by
  have hdata : (reportEvent clock target report).data =
      .obj [("status", .str "success"), ("files", .int report.filesAnalyzed),
        ("findings", .int report.findings.length),
        ("parse_failures", .int report.diagnostics.length)] := rfl
  rw [hdata]
  refine .obj ?_
  simp only [List.forall_mem_cons]
  exact ⟨.str _, .int _, .int _, .int _, by simp⟩

theorem timed_events (clock : Clock) (target : Path) (report : Report) :
    (RunLog.timed clock.now (report.diagnostics.map diagnosticEvent ++
      [reportEvent clock target report])).map (fun p => p.2.toJson p.1) =
        entries clock target report := by
  simp only [RunLog.timed, entries, List.zipIdx_append, List.zipIdx_map, List.map_append,
    List.map_map, List.length_map, List.zipIdx_singleton, List.map_singleton, Nat.zero_add]
  rfl

/-- The report sums up the outcomes for the files of a run. -/
structure SumsUp (outcomes : List FileOutcome) (report : Report) : Prop where
  settled : ∀ o ∈ outcomes, o.Settled
  filesAnalyzed : report.filesAnalyzed = outcomes.length
  findings : report.findings = mergeFindings outcomes
  diagnostics : report.diagnostics = diagnosticsOf outcomes

section Outcomes

variable {outcomes : List FileOutcome}

/-- Without files there are no findings. -/
theorem SumsUp.findings_eq_nil {report : Report} (h : SumsUp outcomes report)
    (hfiles : report.filesAnalyzed = 0) : report.findings = [] := by
  have hnone : outcomes = [] := by
    rw [h.filesAnalyzed] at hfiles
    exact List.eq_nil_of_length_eq_zero (by omega)
  rw [h.findings, hnone]
  exact List.mergeSort_nil

/-- Each diagnostic is an event. -/
theorem filterMap_parseFailureEvent (hset : ∀ o ∈ outcomes, o.Settled) :
    outcomes.filterMap parseFailureEvent = (diagnosticsOf outcomes).map diagnosticEvent := by
  rw [diagnosticsOf, List.map_filterMap]
  refine List.filterMap_congr fun o ho => ?_
  cases hd : o.diagnostic with
  | none => simp [parseFailureEvent, hd]
  | some d =>
    have hfile : d.file = o.path := (hset o ho).diagnostic_file d hd
    simp [parseFailureEvent, hd, diagnosticEvent, hfile]

end Outcomes

/-! ## Runs -/

section Runs

variable (fs : FileSystem) (host : Host) (config : Config) (clock : Clock) (target : Path)
  (names : Option (List String))

/-- **How a run can end**, and the events that it leaves. -/
theorem analyzePath_cases :
    let o := analyzePath fs host config clock target names
    (∃ name, o.result = .error (.unknownSmell name) ∧ o.events = []) ∨
      (∃ failure, o.result = .error (.target failure) ∧ o.events = []) ∨
      (o.result = .error .negativeWorkers ∨ ∃ e, o.result = .error (.file e)) ∨
      ∃ outcomes report, SumsUp outcomes report ∧ o.result = .ok report ∧
        o.events = report.diagnostics.map diagnosticEvent ++ [reportEvent clock target report] := by
  intro o
  simp only [o, analyzePath]
  split
  · exact Or.inl ⟨_, rfl, rfl⟩
  · rename_i smells hselect
    split
    · exact Or.inr (Or.inl ⟨_, rfl, rfl⟩)
    · rename_i paths root hdiscover
      split_ifs
      · exact Or.inr (Or.inr (Or.inl (Or.inl rfl)))
      · split
        · exact Or.inr (Or.inr (Or.inl (Or.inr ⟨_, rfl⟩)))
        · rename_i outcomes heach
          obtain ⟨outcome, hout⟩ := exists_outcome (forall_of_analyzeEach heach)
          obtain rfl := Except.ok.inj ((analyzeEach_eq hout).symm.trans heach)
          have hset : ∀ o ∈ paths.map outcome, o.Settled := fun o => settled_of_mem_map hout
          refine Or.inr (Or.inr (Or.inr ⟨paths.map outcome, _,
            ⟨hset, ?_, rfl, rfl⟩, rfl, ?_⟩))
          · exact congrArg Nat.cast (List.length_map outcome).symm
          · rw [filterMap_parseFailureEvent hset]
            rfl

variable {fs host config clock target names}

theorem events_of_report {report : Report}
    (h : (analyzePath fs host config clock target names).result = .ok report) :
    ∃ outcomes, SumsUp outcomes report ∧
      (analyzePath fs host config clock target names).events =
        report.diagnostics.map diagnosticEvent ++ [reportEvent clock target report] := by
  rcases analyzePath_cases fs host config clock target names with
    ⟨_, hresult, -⟩ | ⟨_, hresult, -⟩ | (hresult | ⟨_, hresult⟩) |
      ⟨outcomes, _, hsums, hresult, hlog⟩ <;> rw [h] at hresult <;> cases hresult
  exact ⟨outcomes, hsums, hlog⟩

/-- A run that ends before any file is analysed has no events. -/
theorem events_of_error {failure : Failure}
    (h : (analyzePath fs host config clock target names).result = .error failure)
    (hworkers : failure ≠ .negativeWorkers) (hfile : ∀ e, failure ≠ .file e) :
    (analyzePath fs host config clock target names).events = [] := by
  rcases analyzePath_cases fs host config clock target names with
    ⟨_, -, hevents⟩ | ⟨_, -, hevents⟩ | (hresult | ⟨e, hresult⟩) | ⟨_, _, -, hresult, -⟩
  · exact hevents
  · exact hevents
  all_goals rw [h] at hresult
  · exact absurd (Except.error.inj hresult) hworkers
  · exact absurd (Except.error.inj hresult) (hfile e)
  · cases hresult

variable {log : RunLog}

/-- A run that is recorded and did not fail for its log ended as it did before, and its events are
written. -/
theorem appendAll_of_record {o : Outcome} {result : Except Failure Report}
    (h : (record log clock fs o).1.result = result) (hlog : ∀ e, result ≠ .error (.log e)) :
    o.result = result ∧
      log.appendAll clock.now fs o.events = .ok (record log clock fs o).2 := by
  unfold record at h ⊢
  split at h
  · rename_i written happend
    rw [happend]
    exact ⟨h, rfl⟩
  · exact absurd h.symm (hlog _)

/-- The report of a run with a log sums up the outcomes for its files. -/
theorem exists_sumsUp_analyzeLogged {outcome : Outcome} {after : FileSystem} {report : Report}
    (h : analyzeLogged log fs host config clock target names = (outcome, after))
    (hreport : outcome.result = .ok report) : ∃ outcomes, SumsUp outcomes report := by
  obtain rfl : (analyzeLogged log fs host config clock target names).1 = outcome := by rw [h]
  unfold analyzeLogged at hreport
  split at hreport
  · cases hreport
  · obtain ⟨hresult, -⟩ := appendAll_of_record hreport (by simp)
    obtain ⟨outcomes, hsums, -⟩ := events_of_report hresult
    exact ⟨outcomes, hsums⟩

/-- A run that ends before any file is analysed leaves the file system as it was. -/
theorem files_of_error {failure : Failure} (hlog : ∀ e, failure ≠ .log e)
    (hworkers : failure ≠ .negativeWorkers) (hfile : ∀ e, failure ≠ .file e)
    (h : (record log clock fs (analyzePath fs host config clock target names)).1.result =
      .error failure) :
    (record log clock fs (analyzePath fs host config clock target names)).2 = fs := by
  obtain ⟨hresult, happend⟩ := appendAll_of_record h fun e he => hlog e (Except.error.inj he)
  rw [events_of_error hresult hworkers hfile] at happend
  exact (Except.ok.inj happend).symm

/-- A run ends as it did before it was recorded if the log takes texts on its day. -/
theorem result_record {file : Path} (hday : ∀ i, log.file (clock.now (2 * i + 1)) = file)
    (h : ∀ s, ∃ written, fs.appendText file s = .ok written) (o : Outcome) :
    (record log clock fs o).1.result = o.result := by
  obtain ⟨written, happend⟩ := RunLog.exists_appendAll hday h o.events
  rw [record, happend]

/-- The events of a run with a report are written as the entries of the run. -/
theorem readBytes_of_appendAll {report : Report} {written : FileSystem} {file : Path}
    (hday : ∀ i ≤ report.diagnostics.length, log.file (clock.now (2 * i + 1)) = file)
    (h : log.appendAll clock.now fs (report.diagnostics.map diagnosticEvent ++
      [reportEvent clock target report]) = .ok written) :
    ∃ old new lines, fs.Held file old ∧
      written.readBytes file = .ok (old ++ Text.encodeUtf8 new.toList) ∧
      Text.lines new = lines ++ [""] ∧
      lines.map Json.parse = (entries clock target report).map some := by
  have hfinite : ∀ e ∈ report.diagnostics.map diagnosticEvent ++
      [reportEvent clock target report], Json.FiniteFloats e.data := by
    refine List.forall_mem_append.2 ⟨?_, ?_⟩
    · simp only [List.forall_mem_map]
      exact fun d _ => finiteFloats_diagnosticEvent d
    · simp only [List.forall_mem_singleton]
      exact finiteFloats_reportEvent clock target report
  obtain ⟨lines, hlines, hparse⟩ := RunLog.parse_lines clock.now hfinite
  obtain ⟨old, hold, hread⟩ := RunLog.readBytes_appendAll (by simp)
    (fun i hi => hday i (by simpa [Nat.lt_succ_iff] using hi)) h
  refine ⟨old, _, lines, hold, hread, hlines, hparse.trans ?_⟩
  rw [← timed_events, List.map_map]
  rfl

/-- **A run and its log.** If a run whose events are written ends with a report, and its events are
all of one day, the log file of the day holds what it held before and, behind it, lines of JSON: one
for each diagnostic of the report, in order, with its file and its message, and then one for the
run, with the path of the target, the word for success and the figures of the report; each line has
the time that was read for it. If the run ends for an unknown smell or for want of a target, nothing
is written. -/
theorem record_analyzePath (fs : FileSystem) (host : Host) (config : Config) (clock : Clock)
    (target : Path) (names : Option (List String)) (log : RunLog) :
    let run := record log clock fs (analyzePath fs host config clock target names)
    (∀ report file, run.1.result = .ok report →
      (∀ i ≤ report.diagnostics.length, log.file (clock.now (2 * i + 1)) = file) →
      ∃ old new lines, fs.Held file old ∧
        run.2.readBytes file = .ok (old ++ Text.encodeUtf8 new.toList) ∧
        Text.lines new = lines ++ [""] ∧
        lines.map Json.parse = (entries clock target report).map some) ∧
      (∀ name, run.1.result = .error (.unknownSmell name) → run.2 = fs) ∧
      ∀ failure, run.1.result = .error (.target failure) → run.2 = fs := by
  intro run
  refine ⟨fun report file h hday => ?_, fun name => files_of_error (by simp) (by simp) (by simp),
    fun failure => files_of_error (by simp) (by simp) (by simp)⟩
  obtain ⟨hresult, happend⟩ := appendAll_of_record h (by simp)
  obtain ⟨outcomes, -, hevents⟩ := events_of_report hresult
  rw [hevents] at happend
  exact readBytes_of_appendAll hday happend

/-- A file that cannot be parsed, with a line feed and a character above sixteen bits in its name,
and a log file that holds an empty line: the failure and the run stand behind that line, each with a
time of its own. -/
theorem record_analyzePath_failure :
    let target : Path := ⟨"/", ["😀\n.js"]⟩
    let fs : FileSystem := ⟨.dir [("😀\n.js", .file [0x7B]),
      ("logs", .dir [("jsmells-2024-01-02.jsonl", .file [0x0A])])], []⟩
    let host : Host := .usual fun _ _ => .node ⟨"program", true, none, 0, 1, 0, true, false⟩ []
    let config : Config := { baseDir := .here }
    let clock : Clock :=
      { now := fun n => { year := 2024, month := 1, day := 2, second := min n 59 } }
    let log : RunLog := ⟨⟨"/", ["logs"]⟩⟩
    let file : Path := ⟨"/", ["logs", "jsmells-2024-01-02.jsonl"]⟩
    let run := record log clock fs
      (analyzePath fs host config clock target (some ["Long Method/Function"]))
    ∃ report d new lines, run.1.result = .ok report ∧ report.diagnostics = [d] ∧
      d.file = "/😀\n.js" ∧
      run.2.readBytes file = .ok (0x0A :: Text.encodeUtf8 new.toList) ∧
      Text.lines new = lines ++ [""] ∧
      lines.map Json.parse = [some (diagnosticEntry (clock.now 0) d),
        some (reportEntry clock (clock.now 2) target report)] := by
  intro target fs host config clock log file run
  have hselect : Smell.select (some ["Long Method/Function"]) = .ok [.longFunction] := by decide
  have htarget : fs.locate false target = .ok (.found ["😀\n.js"] (.file [0x7B])) :=
    FileSystem.locate_entry (by decide) (by decide) rfl rfl (by simp)
  have hanalyzable : Discovery.isAnalyzable host config target = .ok true := by decide +kernel
  have htext : fs.readText target = .ok "\x7b" := by
    rw [FileSystem.readText, FileSystem.readBytes_of_locate htarget]
    decide +kernel
  have hout : analyzeFile fs host config [.longFunction] target =
      .ok (analyzeText host config [.longFunction] target.toString "\x7b") :=
    analyzeFile_of_readText htext
  obtain ⟨d, hd⟩ : ∃ d, (analyzeText host config [.longFunction] target.toString
      "\x7b").diagnostic = some d := by
    refine Option.isSome_iff_exists.1
      ((isSome_diagnostic_iff hout).2 (Or.inr (Or.inr ?_)))
    exact ⟨⟨_, List.mem_singleton_self _, rfl⟩, "\x7b", .javascript, _, ⟨htext, by decide⟩,
      by decide +kernel, rfl⟩
  obtain ⟨report, hresult, hdiagnostics⟩ : ∃ report : Report,
      (analyzePath fs host config clock target (some ["Long Method/Function"])).result =
        .ok report ∧ report.diagnostics = [d] := by
    refine ⟨_, analyzePath_file fs host config clock hselect htarget hanalyzable
      (by simp [config]) hout, ?_⟩
    simp [diagnosticsOf, hd]
  -- the name of the file has the date and not the time of day
  have hname : RunLog.fileName (clock.now 0) = "jsmells-2024-01-02.jsonl" := by decide +kernel
  have hday : ∀ i, log.file (clock.now (2 * i + 1)) = file := fun _ =>
    congrArg (Path.mk "/" ["logs", ·]) hname
  have hlocate : fs.locate true file =
      .ok (.found ["logs", "jsmells-2024-01-02.jsonl"] (.file [0x0A])) := by
    have hcheck : FileSystem.checkPath file = .ok () := by decide +kernel
    rw [FileSystem.locate, hcheck]
    refine (FileSystem.follow_entry (by decide) rfl rfl (by simp)).trans ?_
    exact (FileSystem.follow_entry (by decide) rfl rfl (by simp)).trans (FileSystem.follow_nil rfl)
  have hfirst : ∀ s, ∃ written, fs.appendText file s = .ok written := by
    intro s
    unfold FileSystem.appendText FileSystem.updateFile
    rw [hlocate]
    exact ⟨_, rfl⟩
  have hrun := (result_record hday hfirst _).trans hresult
  obtain ⟨old, new, lines, hold, hread, hlines, hparse⟩ :=
    (record_analyzePath fs host config clock target _ log).1 _ file hrun fun i _ => hday i
  obtain rfl := hold.eq (FileSystem.readBytes_of_locate hlocate)
  refine ⟨report, d, new, lines, hrun, hdiagnostics, ?_, hread, hlines, ?_⟩
  · rw [file_of_diagnostic hout hd]
    decide
  · rw [hparse, entries_of_singleton hdiagnostics]
    rfl

end Runs

end SmellScan.Analysis
