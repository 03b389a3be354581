import SmellScan.Cli.Analyze
import SmellScan.Proofs.Analysis.Loading
import SmellScan.Proofs.Analysis.Logged
import SmellScan.Proofs.FileSystem.ReadBack

/-!
# Where the report goes

A command that ends well has ended every step of it well (`Ends.bind`), and the steps that print
leave the files alone (`KeepsFiles`). So an analysis leaves in the files what its log leaves there
and, if the report is saved, the report. It is saved if its format is for machines or there are
findings; a report in plain text without findings is not, and what was in the file before stays
there (`runAnalysis_output`).
-/

namespace SmellScan.Cli

namespace Session

variable {α β : Type} {w w' : World}

/-! ## Sessions that end well -/

/-- A session that begins in the world `w` ends well, with a value, in the world `w'`. -/
def Ends (m : Session α) (w : World) (a : α) (w' : World) : Prop :=
  m.run.run w = (.ok a, w')

/-- **A sequence that ends well** ends its parts well, one after the other. -/
theorem Ends.bind {m : Session α} {f : α → Session β} {b : β} (h : Ends (m >>= f) w b w') :
    ∃ a v, Ends m w a v ∧ Ends (f a) v b w' := by
  unfold Ends at *
  simp only [ExceptT.run_bind, StateT.run_bind] at h
  rcases hm : m.run.run w with ⟨r, v⟩
  rw [hm] at h
  cases r with
  | ok a => exact ⟨a, v, rfl, h⟩
  | error stop => cases h

theorem ends_bind {m : Session α} {f : α → Session β} {a : α} {b : β} {v : World}
    (hm : Ends m w a v) (hf : Ends (f a) v b w') : Ends (m >>= f) w b w' := by
  unfold Ends at *
  simp only [ExceptT.run_bind, StateT.run_bind]
  rw [hm]
  exact hf

/-- A step that ends well, before a rest that ends well with a property. -/
theorem exists_ends_bind {m : Session α} {f : α → Session β} {a : α} {b : β} {v : World}
    {P : World → Prop} (hm : Ends m w a v) (hf : ∃ w', Ends (f a) v b w' ∧ P w') :
    ∃ w', Ends (m >>= f) w b w' ∧ P w' := by
  obtain ⟨w', hw', hP⟩ := hf
  exact ⟨w', ends_bind hm hw', hP⟩

theorem exists_ends_say {s shown : String} (h : (Console.Item.markup s).render = .ok shown)
    (w : World) : ∃ w', Ends (say s) w () w' ∧ w'.files = w.files := by
  refine ⟨{ w with stdout := w.stdout ++ shown }, ?_, rfl⟩
  unfold Ends say print rendered
  rw [h]
  rfl

theorem ends_onFiles {f : FileSystem → Except FileError FileSystem}
    (h : Ends (onFiles f) w () w') : ∃ files, f w.files = .ok files ∧ w' = { w with files } := by
  obtain ⟨v, _, hget, h⟩ := h.bind
  cases hget
  split at h
  · rename_i files hfiles
    cases h
    exact ⟨files, hfiles, rfl⟩
  · cases h

theorem ends_onFiles_of_ok {f : FileSystem → Except FileError FileSystem} {files : FileSystem}
    (h : f w.files = .ok files) : Ends (onFiles f) w () { w with files } := by
  refine ends_bind (show Ends get w w w from rfl) ?_
  rw [h]
  rfl

/-! ## Sessions that print -/

/-- The session leaves the files as they are, however it ends. -/
def KeepsFiles (m : Session α) : Prop :=
  ∀ w, (m.run.run w).2.files = w.files

theorem KeepsFiles.ends {m : Session α} {a : α} (hm : KeepsFiles m) (h : Ends m w a w') :
    w'.files = w.files := by
  rw [← hm w, h]

theorem KeepsFiles.bind {m : Session α} {f : α → Session β} (hm : KeepsFiles m)
    (hf : ∀ a, KeepsFiles (f a)) : KeepsFiles (m >>= f) := by
  intro w
  have hw := hm w
  simp only [ExceptT.run_bind, StateT.run_bind]
  generalize m.run.run w = outcome at hw
  obtain ⟨r, v⟩ := outcome
  cases r with
  | ok a => exact (hf a v).trans hw
  | error stop => exact hw

/-- A step that is taken under a condition and keeps the files leaves the rest as it would be. -/
theorem Ends.optional {c : Bool} {m : Session Unit} {f : Unit → Session β} {b : β}
    (hm : KeepsFiles m) (h : Ends (if c = true then m >>= f else f ()) w b w') :
    ∃ v, v.files = w.files ∧ Ends (f ()) v b w' := by
  split_ifs at h
  · obtain ⟨_, v, hstep, h⟩ := h.bind
    exact ⟨v, hm.ends hstep, h⟩
  · exact ⟨w, rfl, h⟩

theorem exists_ends_optional {c : Bool} {m : Session Unit} {f : Unit → Session β} {b : β}
    {P : World → Prop} (hm : ∃ v, Ends m w () v ∧ v.files = w.files)
    (hf : ∀ v, v.files = w.files → ∃ w', Ends (f ()) v b w' ∧ P w') :
    ∃ w', Ends (if c = true then m >>= f else f ()) w b w' ∧ P w' := by
  split_ifs
  · obtain ⟨v, hstep, hv⟩ := hm
    exact exists_ends_bind hstep (hf v hv)
  · exact hf w rfl

theorem keepsFiles_pure (a : α) : KeepsFiles (pure a : Session α) := fun _ => rfl

theorem keepsFiles_rendered (r : Except Console.MarkupError String) :
    KeepsFiles (rendered r) := by
  cases r with
  | ok s => exact fun _ => rfl
  | error e => exact fun _ => rfl

theorem keepsFiles_print (item : Console.Item) : KeepsFiles (print item) :=
  (keepsFiles_rendered item.render).bind fun _ _ => rfl

theorem keepsFiles_say (s : String) : KeepsFiles (say s) :=
  keepsFiles_print (.markup s)

theorem keepsFiles_complain (item : Console.Item) : KeepsFiles (complain item) :=
  (keepsFiles_rendered item.render).bind fun _ _ => rfl

theorem keepsFiles_complainAll (items : List Console.Item) : KeepsFiles (complainAll items) := by
  induction items with
  | nil => exact keepsFiles_pure ()
  | cons item items ih => exact (keepsFiles_complain item).bind fun _ => ih

end Session

open Session

/-! ## The steps of an analysis -/

variable {s : Surroundings} {t : Task} {w w' : World} {report : Report}

theorem not_ends_throw {α β : Type} {m : Session α} {stop : Stop} {b : β} (w w' : World) :
    ¬Ends (m >>= fun _ => (throw stop : Session β)) w b w' := by
  intro h
  obtain ⟨_, _, -, hthrow⟩ := h.bind
  cases hthrow

/-- A failure never ends well. -/
theorem not_ends_reportFailure (failure : Analysis.Failure) (w w' : World) :
    ¬Ends (reportFailure failure) w () w' := by
  unfold reportFailure
  split
  · exact not_ends_throw w w'
  · exact not_ends_throw w w'
  · exact not_ends_throw w w'
  · intro h
    cases h

theorem ends_analyze {result : Except Analysis.Failure Report}
    (h : Ends (analyze s t) w result w') :
    ∃ outcome, Analysis.analyzeLogged ⟨t.config.logDir⟩ w.files s.host t.config s.clock t.path
      t.smells = (outcome, w'.files) ∧ outcome.result = result := by
  cases h
  exact ⟨_, rfl, rfl⟩

theorem ends_analyze_of_eq {outcome : Analysis.Outcome} {logged : FileSystem}
    (h : Analysis.analyzeLogged ⟨t.config.logDir⟩ w.files s.host t.config s.clock t.path
      t.smells = (outcome, logged)) :
    Ends (analyze s t) w outcome.result
      { w with files := logged, warnings := w.warnings ++ outcome.warnings } := by
  refine ends_bind (show Ends get w w w from rfl) ?_
  rw [h]
  rfl

theorem ends_complainAll_of_nil {diagnostics : List Diagnostic} (h : diagnostics = []) (w : World) :
    Ends (complainAll (Report.diagnosticItems diagnostics)) w () w := by
  rw [h]
  rfl

/-- A report that is saved is in its file. -/
theorem ends_saveReport {name text : String} (h : Ends (saveReport name text) w () w') :
    w'.files.readBytes (.ofString name) = .ok (Text.encodeUtf8 text.toList) := by
  obtain ⟨_, v, hwrite, hsay⟩ := h.bind
  obtain ⟨files, hfiles, rfl⟩ := ends_onFiles hwrite
  rw [(keepsFiles_say _).ends hsay]
  exact FileSystem.readBytes_writeText hfiles

/-- The report is one to save: its format is for machines, or it has findings. -/
def Task.Saves (t : Task) (report : Report) : Prop :=
  t.isMachine = true ∨ report.findings ≠ []

theorem Task.not_saves_iff : ¬t.Saves report ↔ t.isMachine = false ∧ report.findings = [] := by
  simp [Task.Saves]

/-- **A report that is presented** is in the output file if it is one to save; else the files are
left as they are. -/
theorem ends_present {name : String} (hname : t.outputFile? = some name)
    (hfiles : report.filesAnalyzed = 0 → report.findings = [])
    (h : Ends (present s.host t report) w () w') :
    t.Saves report ∧ w'.files.readBytes (.ofString name) =
        .ok (Text.encodeUtf8 (t.renderReport s.host report).toList) ∨
      ¬t.Saves report ∧ w'.files = w.files := by
  obtain ⟨_, v, hcomplain, h⟩ := h.bind
  have hv := (keepsFiles_complainAll _).ends hcomplain
  split_ifs at h with hnone hempty
  · simp only [Bool.and_eq_true, decide_eq_true_eq, Bool.not_eq_true'] at hnone
    exact Or.inr ⟨Task.not_saves_iff.2 ⟨hnone.2, hfiles hnone.1⟩,
      ((keepsFiles_say _).ends h).trans hv⟩
  · simp only [Bool.and_eq_true, List.isEmpty_iff, Bool.not_eq_true'] at hempty
    exact Or.inr ⟨Task.not_saves_iff.2 ⟨hempty.2, hempty.1⟩, ((keepsFiles_say _).ends h).trans hv⟩
  · rw [deliver, hname] at h
    refine Or.inl ⟨?_, ends_saveReport h⟩
    by_contra hsaves
    exact hempty (by simp [Task.not_saves_iff.1 hsaves])

theorem ends_runAnalysis (h : Ends (runAnalysis s t) w () w') :
    ∃ ready outcome report v, t.config.ensureDirs w.files = .ok ready ∧
      Analysis.analyzeLogged ⟨t.config.logDir⟩ ready s.host t.config s.clock t.path t.smells =
        (outcome, v.files) ∧
      outcome.result = .ok report ∧ Ends (present s.host t report) v () w' := by
  obtain ⟨_, _, hdirs, h⟩ := h.bind
  obtain ⟨ready, hready, rfl⟩ := ends_onFiles hdirs
  obtain ⟨v, hv, h⟩ := Ends.optional (keepsFiles_say _) h
  obtain ⟨result, v', hanalyze, h⟩ := h.bind
  obtain ⟨outcome, hlogged, hresult⟩ := ends_analyze hanalyze
  rw [hv] at hlogged
  cases result with
  | error failure => exact absurd h (not_ends_reportFailure failure v' w')
  | ok report => exact ⟨ready, outcome, report, v', hready, hlogged, hresult, h⟩

/-- An analysis ends well if its report is presented well and there is no trouble before. -/
theorem exists_ends_runAnalysis {ready logged : FileSystem} {outcome : Analysis.Outcome}
    {shown : String} {P : World → Prop} (hready : t.config.ensureDirs w.files = .ok ready)
    (hshown : (Console.Item.markup ("Analyzing path: " ++ t.path.toString)).render = .ok shown)
    (hlogged : Analysis.analyzeLogged ⟨t.config.logDir⟩ ready s.host t.config s.clock t.path
      t.smells = (outcome, logged))
    (hresult : outcome.result = .ok report)
    (hpresent : ∀ v : World, v.files = logged →
      ∃ w', Ends (present s.host t report) v () w' ∧ P w') :
    ∃ w', Ends (runAnalysis s t) w () w' ∧ P w' := by
  refine exists_ends_bind (ends_onFiles_of_ok hready) ?_
  refine exists_ends_optional (exists_ends_say hshown _) ?_
  rintro v rfl
  have hanalyze := ends_analyze_of_eq hlogged
  rw [hresult] at hanalyze
  exact exists_ends_bind hanalyze (hpresent _ rfl)

/-! ## An analysis without findings -/

/-- A file without lengthy lines, an old report, and a directory for the log. -/
def tidy : FileSystem :=
  ⟨.dir [("a.js", .file [0x31]), ("report.txt", .file [0x78]), ("logs", .dir [])], []⟩

/-- A host with a parser that sees an empty program. -/
def tidyHost : Host :=
  .usual fun _ _ => .node ⟨"program", true, none, 0, 1, 0, false, false⟩ []

theorem makeDirs_tidy : tidy.makeDirs ⟨"/", ["logs"]⟩ = .ok tidy := by
  have hcheck : FileSystem.checkPath ⟨"/", ["logs"]⟩ = .ok () := by decide
  have hlogs : tidy.locate false ⟨"/", ["logs"]⟩ = .ok (.found ["logs"] (.dir [])) :=
    FileSystem.locate_entry hcheck (by decide) rfl rfl (by simp)
  refine FileSystem.makeDirs_of_found ?_ hlogs
  have habove : FileSystem.follow tidy.top false FileSystem.maxLinks (tidy.start ⟨"/", ["logs"]⟩)
      [] = .ok (.found [] tidy.top) := FileSystem.follow_nil rfl
  unfold FileSystem.newEntry
  rw [hcheck]
  simp only [List.getLast?_singleton, List.dropLast_singleton, habove]
  rfl

theorem ensureDirs_tidy : Config.ensureDirs { baseDir := ⟨"/", []⟩ } tidy = .ok tidy := by
  have hbase : tidy.makeDirs ⟨"/", []⟩ = .ok tidy := by
    have hcheck : FileSystem.checkPath ⟨"/", []⟩ = .ok () := by decide
    have htop : tidy.locate false ⟨"/", []⟩ = .ok (.found [] tidy.top) := by
      rw [FileSystem.locate, hcheck]
      exact FileSystem.follow_nil rfl
    refine FileSystem.makeDirs_of_found ?_ htop
    unfold FileSystem.newEntry
    rw [hcheck]
    rfl
  show (tidy.makeDirs ⟨"/", []⟩).bind _ = _
  rw [hbase]
  exact makeDirs_tidy

theorem locate_tidy : tidy.locate false ⟨"/", ["a.js"]⟩ = .ok (.found ["a.js"] (.file [0x31])) :=
  FileSystem.locate_entry (by decide) (by decide) rfl rfl (by simp)

theorem analyzeFile_tidy :
    ∃ outcome, Analysis.analyzeFile tidy tidyHost { baseDir := ⟨"/", []⟩ } [.lengthyLines]
      ⟨"/", ["a.js"]⟩ = .ok outcome ∧ outcome.findings = [] ∧ outcome.diagnostic = none := by
  have hspelled : Path.ofString "/a.js" = ⟨"/", ["a.js"]⟩ := by decide
  have hlanguage : Language.ofPath "/a.js" = .ok .javascript := by decide
  have hfile : tidy.readBytes (.ofString "/a.js") = .ok (Text.encodeUtf8 "1".toList) := by
    rw [hspelled, FileSystem.readBytes_of_locate locate_tidy]
    decide
  have hread :=
    Analysis.analyzeFile_ofString tidyHost { baseDir := ⟨"/", []⟩ } [.lengthyLines] hfile
  have hpaired : Text.ReturnsPaired "1".toList := by decide
  have hpair := Analysis.analyzeText_universalNewlines tidyHost { baseDir := ⟨"/", []⟩ }
    [.lengthyLines] hlanguage hpaired (by decide)
  have hunit : Analysis.analyzeUnit ⟨"/a.js", "1", .javascript, none, none⟩
      { baseDir := ⟨"/", []⟩ } [.lengthyLines] = ([], none) := by
    have hrun : Smell.lengthyLines.run ⟨"/a.js", "1", .javascript, none, none⟩
        { baseDir := ⟨"/", []⟩ } = [] := by decide +kernel
    refine Prod.ext ?_ rfl
    rw [Analysis.analyzeUnit_findings, List.flatMap_singleton, hrun]
    exact List.mergeSort_nil
  rw [hspelled] at hread hpair
  have hboth := hpair.trans hunit
  exact ⟨_, hread, congrArg Prod.fst hboth, congrArg Prod.snd hboth⟩

/-- The log of the analysis, and its report. -/
theorem analyzeLogged_tidy :
    ∃ outcome report bytes,
      Analysis.analyzeLogged ⟨⟨"/", ["logs"]⟩⟩ tidy tidyHost { baseDir := ⟨"/", []⟩ }
        { now := fun _ => { year := 2024, month := 1, day := 2 } } ⟨"/", ["a.js"]⟩
        (some ["Lengthy Lines"]) =
          (outcome, tidy.setAt ["logs", "jsmells-2024-01-02.jsonl"] (.file bytes)) ∧
      outcome.result = .ok report ∧ report.filesAnalyzed = 1 ∧ report.findings = [] ∧
      report.diagnostics = [] := by
  let config : Config := { baseDir := ⟨"/", []⟩ }
  let clock : Clock := { now := fun _ => { year := 2024, month := 1, day := 2 } }
  let log : RunLog := ⟨⟨"/", ["logs"]⟩⟩
  let target : Path := ⟨"/", ["a.js"]⟩
  obtain ⟨outcome, hout, hfindings, hdiagnostic⟩ := analyzeFile_tidy
  have hselect : Smell.select (some ["Lengthy Lines"]) = .ok [.lengthyLines] := by decide
  have hanalyzable : Discovery.isAnalyzable tidyHost config target = .ok true := by
    decide +kernel
  have hfile : log.file (clock.now 1) = ⟨"/", ["logs", "jsmells-2024-01-02.jsonl"]⟩ := by
    decide +kernel
  have hlocate : tidy.locate true (log.file (clock.now 1)) =
      .ok (.vacant ["logs"] "jsmells-2024-01-02.jsonl") := by
    have hcheck : FileSystem.checkPath (log.file (clock.now 1)) = .ok () := by decide +kernel
    rw [FileSystem.locate, hcheck, hfile]
    exact (FileSystem.follow_entry (by decide) rfl rfl (by simp)).trans
      (FileSystem.follow_free (by decide) rfl rfl rfl)
  obtain ⟨report, hresult, hcount, hmerged, hdiagnostics⟩ : ∃ report : Report,
      (Analysis.analyzePath tidy tidyHost config clock target (some ["Lengthy Lines"])).result =
        .ok report ∧ report.filesAnalyzed = 1 ∧ report.findings = [] ∧
      report.diagnostics = [] := by
    refine ⟨_, Analysis.analyzePath_file tidy tidyHost config clock hselect locate_tidy
      hanalyzable (by simp [config]) hout, rfl, ?_, ?_⟩
    · simp only [Analysis.mergeFindings, List.foldl_cons, List.foldl_nil, hfindings]
      exact List.mergeSort_nil
    · simp [Analysis.diagnosticsOf, hdiagnostic]
  obtain ⟨outcomes, -, hevents⟩ := Analysis.events_of_report hresult
  -- without diagnostics the event of the run is the only one
  rw [hdiagnostics, List.map_nil, List.nil_append] at hevents
  obtain ⟨bytes, hlogged⟩ : ∃ bytes, Analysis.analyzeLogged log tidy tidyHost config clock target
      (some ["Lengthy Lines"]) =
        (Analysis.analyzePath tidy tidyHost config clock target (some ["Lengthy Lines"]),
          tidy.setAt ["logs", "jsmells-2024-01-02.jsonl"] (.file bytes)) := by
    unfold Analysis.analyzeLogged RunLog.start
    rw [makeDirs_tidy]
    dsimp only
    rw [Analysis.record, hevents, RunLog.appendAll, RunLog.append, FileSystem.appendText,
      FileSystem.updateFile, hlocate]
    exact ⟨_, rfl⟩
  exact ⟨_, report, bytes, hlogged, hresult, hcount, hmerged, hdiagnostics⟩

/-- The old report is where it was when the log is written. -/
theorem locate_report_tidy (bytes : List UInt8) :
    (tidy.setAt ["logs", "jsmells-2024-01-02.jsonl"] (.file bytes)).locate true
      ⟨"/", ["report.txt"]⟩ = .ok (.found ["report.txt"] (.file [0x78])) :=
  FileSystem.locate_entry (by decide) (by decide) rfl rfl (by simp)

/-! ## The output file -/

/-- **What an analysis leaves in its output file.** If an analysis with an output file ends well, it
has a report. If the format is for machines or the report has findings, the file then holds the
rendering of the report, whatever it held before. Otherwise nothing is written to it: the files are
as the log of the run left them. -/
theorem runAnalysis_output {name : String} (hname : t.outputFile? = some name)
    (h : Ends (runAnalysis s t) w () w') :
    ∃ ready outcome logged report, t.config.ensureDirs w.files = .ok ready ∧
      Analysis.analyzeLogged ⟨t.config.logDir⟩ ready s.host t.config s.clock t.path t.smells =
        (outcome, logged) ∧
      outcome.result = .ok report ∧
      (t.isMachine = true ∨ report.findings ≠ [] → w'.files.readBytes (.ofString name) =
        .ok (Text.encodeUtf8 (t.renderReport s.host report).toList)) ∧
      (t.isMachine = false → report.findings = [] → w'.files = logged) := by
  obtain ⟨ready, outcome, report, v, hready, hlogged, hresult, hpresent⟩ := ends_runAnalysis h
  obtain ⟨outcomes, hsums⟩ := Analysis.exists_sumsUp_analyzeLogged hlogged hresult
  refine ⟨ready, outcome, v.files, report, hready, hlogged, hresult, ?_⟩
  rcases ends_present hname hsums.findings_eq_nil hpresent with ⟨hsaves, hsaved⟩ | ⟨hsaves, hleft⟩
  · refine ⟨fun _ => hsaved, fun hmachine hfindings => ?_⟩
    exact absurd hsaves (Task.not_saves_iff.2 ⟨hmachine, hfindings⟩)
  · exact ⟨fun h => absurd h hsaves, fun _ _ => hleft⟩

/-- A report for machines without findings takes the place of an old one. -/
theorem runAnalysis_output_json :
    let s : Surroundings :=
      ⟨none, tidyHost, { now := fun _ => { year := 2024, month := 1, day := 2 } }⟩
    let t : Task := { config := { baseDir := ⟨"/", []⟩ }, path := ⟨"/", ["a.js"]⟩
                      smells := some ["Lengthy Lines"], format := .json
                      output := some "/report.txt" }
    t.outputFile? = some "/report.txt" ∧
      ∃ w' report, Ends (runAnalysis s t) { files := tidy } () w' ∧
        w'.files.readBytes (.ofString "/report.txt") =
          .ok (Text.encodeUtf8 (t.renderReport s.host report).toList) := by
  intro s t
  have hname : t.outputFile? = some "/report.txt" := by decide
  have hmachine : t.isMachine = true := by decide
  have hspelled : Path.ofString "/report.txt" = ⟨"/", ["report.txt"]⟩ := by decide
  obtain ⟨outcome, report, bytes, hlogged, hresult, -, -, hdiagnostics⟩ :=
    analyzeLogged_tidy
  have hshown : (Console.Item.markup "Analyzing path: /a.js").render =
      .ok "Analyzing path: /a.js\n" := by decide +kernel
  have hsaid : (Console.Item.markup "Report saved to /report.txt").render =
      .ok "Report saved to /report.txt\n" := by decide +kernel
  obtain ⟨w', hends, -⟩ : ∃ w', Ends (runAnalysis s t) { files := tidy } () w' ∧ True := by
    refine exists_ends_runAnalysis ensureDirs_tidy hshown hlogged hresult fun v hv => ?_
    obtain ⟨files, hwrite⟩ : ∃ files, v.files.writeText (.ofString "/report.txt")
        (t.renderReport s.host report) = .ok files := by
      unfold FileSystem.writeText FileSystem.writeBytes FileSystem.updateFile
      rw [hv, hspelled, locate_report_tidy]
      exact ⟨_, rfl⟩
    obtain ⟨w', hsay, -⟩ := exists_ends_say hsaid { v with files }
    refine ⟨w', ends_bind (ends_complainAll_of_nil hdiagnostics v) ?_, trivial⟩
    rw [if_neg (by simp [hmachine]), if_neg (by simp [hmachine]), deliver, hname]
    exact ends_bind (ends_onFiles_of_ok hwrite) hsay
  obtain ⟨-, -, -, report, -, -, -, hsaved, -⟩ := runAnalysis_output hname hends
  exact ⟨hname, w', report, hends, hsaved (Or.inl hmachine)⟩

/-- A report in plain text without findings leaves an old one where it is. -/
theorem runAnalysis_output_stale :
    let s : Surroundings :=
      ⟨none, tidyHost, { now := fun _ => { year := 2024, month := 1, day := 2 } }⟩
    let t : Task := { config := { baseDir := ⟨"/", []⟩ }, path := ⟨"/", ["a.js"]⟩
                      smells := some ["Lengthy Lines"], list := true
                      output := some "/report.txt" }
    ∃ w' outcome logged report, Ends (runAnalysis s t) { files := tidy } () w' ∧
      Analysis.analyzeLogged ⟨t.config.logDir⟩ tidy s.host t.config s.clock t.path t.smells =
        (outcome, logged) ∧
      outcome.result = .ok report ∧
      t.renderReport s.host report = "\nDetected Code Smells:\n====================" ∧
      w'.files.readBytes (.ofString "/report.txt") = .ok (Text.encodeUtf8 "x".toList) := by
  intro s t
  have hmachine : t.isMachine = false := by decide
  have hspelled : Path.ofString "/report.txt" = ⟨"/", ["report.txt"]⟩ := by decide
  obtain ⟨outcome, report, bytes, hlogged, hresult, hcount, hfindings, hdiagnostics⟩ :=
    analyzeLogged_tidy
  have hshown : (Console.Item.markup "Analyzing path: /a.js").render =
      .ok "Analyzing path: /a.js\n" := by decide +kernel
  have hsaid : (Console.Item.markup "No code smells detected!").render =
      .ok "No code smells detected!\n" := by decide +kernel
  obtain ⟨w', hends, hfiles⟩ : ∃ w', Ends (runAnalysis s t) { files := tidy } () w' ∧
      w'.files = tidy.setAt ["logs", "jsmells-2024-01-02.jsonl"] (.file bytes) := by
    refine exists_ends_runAnalysis ensureDirs_tidy hshown hlogged hresult fun v hv => ?_
    obtain ⟨w', hsay, hw'⟩ := exists_ends_say hsaid v
    refine ⟨w', ends_bind (ends_complainAll_of_nil hdiagnostics v) ?_, hw'.trans hv⟩
    rw [if_neg (by simp [hcount]), if_pos (by simp [hfindings, hmachine])]
    exact hsay
  refine ⟨w', outcome, _, report, hends, hlogged, hresult, ?_, ?_⟩
  · have hcounts : report.smellCounts = [] := by
      rw [Report.smellCounts, hfindings]
      rfl
    show report.detected = _
    rw [Report.detected, hcounts]
    decide
  · rw [hfiles, hspelled, FileSystem.readBytes_of_locate (locate_report_tidy bytes)]
    decide

end SmellScan.Cli
