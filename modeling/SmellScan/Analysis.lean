import SmellScan.Discovery
import SmellScan.Ledger
import SmellScan.Report.Basic
import SmellScan.RunLog
import SmellScan.Smell.Registry

/-!
# Analysis

From one unit to a whole directory. The findings of a unit are collected in a ledger of its own, and
those of all units in one more. A file that cannot be read or parsed never stops a run: it leaves a
diagnostic and a warning.
-/

namespace SmellScan

namespace Analysis

/-- The findings of smells in a unit, by line, and the diagnostic of a unit that has no tree. -/
def analyzeUnit (unit : SourceUnit) (config : Config) (smells : List Smell) :
    List Finding × Option Diagnostic :=
  let ledger := smells.foldl (fun ledger s => ledger.extend (s.run unit config)) Ledger.empty
  (ledger.findings, unit.parseError.map fun e => ⟨unit.path, e.message⟩)

/-- The findings in a text. It is parsed only if a smell needs the tree. -/
def analyzeSource (host : Host) (source path : String) (config : Config)
    (smells : List Smell) : Except LanguageError (List Finding × Option Diagnostic) :=
  match SourceUnit.ofSource host path source (smells.any Smell.usesTree) with
  | .ok unit => .ok (analyzeUnit unit config smells)
  | .error e => .error e

/-- The outcome for one file. -/
structure FileOutcome where
  path : String
  findings : List Finding := []
  diagnostic : Option Diagnostic := none
  warning : Option String := none

/-- The unit of a file of a tree. -/
inductive LoadError where
  | language (e : LanguageError)
  | file (e : FileError)

/-- A file of a tree, or a text given for it, as a unit. -/
def loadUnit (fs : FileSystem) (host : Host) (path : String) (source : Option String)
    (parse : Bool) : Except LoadError SourceUnit :=
  match Language.ofPath path with
  | .error e => .error (.language e)
  | .ok language =>
    match source with
    | some text => .ok (SourceUnit.ofText host path language text parse)
    | none =>
      match fs.readText (Path.ofString path) with
      | .ok text => .ok (SourceUnit.ofText host path language text parse)
      | .error e => .error (.file e)

/-- The outcome for a file that cannot be read. -/
def FileOutcome.unreadable (path : String) (e : FileError) : FileOutcome :=
  { path, diagnostic := some ⟨path, s!"Could not read file: {e.message}"⟩
    warning := some s!"Error reading file {path}: {e.message}" }

/-- The outcome for a file that holds a text. A blank file is passed over. -/
def analyzeText (host : Host) (config : Config) (smells : List Smell) (path text : String) :
    FileOutcome :=
  if Text.allBlank text.toList then { path, warning := some s!"Skipping empty file: {path}" }
  else
    match analyzeSource host text path config smells with
    | .error e =>
      { path, diagnostic := some ⟨path, e.message⟩
        warning := some s!"Skipping {path}: {e.message}" }
    | .ok (findings, diagnostic) =>
      { path, findings, diagnostic
        warning := diagnostic.map fun d => s!"Could not parse {path}: {d.message}" }

/-- The outcome for a file of a tree. What the system says against the file is a part of it, but a
path that cannot be given to the system has none. -/
def analyzeFile (fs : FileSystem) (host : Host) (config : Config) (smells : List Smell) (p : Path) :
    Except FileError FileOutcome :=
  match fs.readText p with
  | .ok text => .ok (analyzeText host config smells p.toString text)
  | .error e => if e.fault = .nullCharacter then .error e else .ok (.unreadable p.toString e)

/-- The outcomes for several files. -/
def analyzeEach (fs : FileSystem) (host : Host) (config : Config) (smells : List Smell)
    (paths : List Path) : Except FileError (List FileOutcome) :=
  paths.mapM (analyzeFile fs host config smells)

/-- The findings of several outcomes, by file and line. -/
def mergeFindings (outcomes : List FileOutcome) : List Finding :=
  (outcomes.foldl (fun ledger o => ledger.extend o.findings) Ledger.empty).findings

/-- The diagnostics of several outcomes, in order. -/
def diagnosticsOf (outcomes : List FileOutcome) : List Diagnostic :=
  outcomes.filterMap (·.diagnostic)

/-- The findings and diagnostics of several files. -/
def analyzeFiles (fs : FileSystem) (host : Host) (config : Config) (smells : List Smell)
    (paths : List Path) : Except FileError (List Finding × List Diagnostic) :=
  (analyzeEach fs host config smells paths).map fun outcomes =>
    (mergeFindings outcomes, diagnosticsOf outcomes)

/-- Why a run ends without a report. -/
inductive Failure where
  /-- No smell has the name. -/
  | unknownSmell (name : String)
  /-- There is nothing to search. -/
  | target (failure : Discovery.Failure)
  /-- A negative number of files is to be analysed at a time. -/
  | negativeWorkers
  /-- The path of a file cannot be given to the system. -/
  | file (e : FileError)
  /-- The log cannot be written. -/
  | log (e : FileError)
  deriving DecidableEq, Repr

/-- The text of a failure. -/
def Failure.message : Failure → String
  | .unknownSmell name => name
  | .target failure => failure.message
  | .negativeWorkers => "Semaphore initial value must be >= 0"
  | .file e => e.message
  | .log e => e.message

/-- Words about something that does not stop a run. -/
inductive Warning where
  /-- About the search for files. -/
  | search (text : String)
  /-- About a file. -/
  | file (text : String)
  deriving DecidableEq, Repr

/-- What a run leaves behind. -/
structure Outcome where
  result : Except Failure Report
  warnings : List Warning := []
  events : List Event := []

/-- The event of a file that has a diagnostic. -/
def parseFailureEvent (o : FileOutcome) : Option Event :=
  o.diagnostic.map fun d =>
    { type := "analysis.parse_failure", data := .obj [("message", .str d.message)]
      file := some o.path }

/-- The event of a whole run. -/
def runEvent (target : Path) (notes : List (String × Json)) (error : Option String)
    (clock : Clock) : Event :=
  .span "analysis.run" (some target.toString) notes error clock

/-- The analysis of a target: its files are found and analysed and the report is made. -/
def analyzePath (fs : FileSystem) (host : Host) (config : Config) (clock : Clock)
    (target : Path) (names : Option (List String)) : Outcome :=
  match Smell.select names with
  | .error name => { result := .error (.unknownSmell name) }
  | .ok smells =>
    let searched := (Discovery.warnings host fs config target).map Warning.search
    match Discovery.discover host fs config target with
    | .error failure => { result := .error (.target failure), warnings := searched }
    | .ok (paths, root) =>
      if config.workers.any (· < 0) then
        { result := .error .negativeWorkers
          warnings := searched
          events := [runEvent target [] (some Failure.negativeWorkers.message) clock] }
      else
        match analyzeEach fs host config smells paths with
        | .error e =>
          { result := .error (.file e)
            warnings := searched
            events := [runEvent target [] (some e.message) clock] }
        | .ok outcomes =>
          let findings := mergeFindings outcomes
          let diagnostics := diagnosticsOf outcomes
          { result := .ok
              { root := root.toString, filesAnalyzed := paths.length, findings, diagnostics
                duration := clock.seconds }
            warnings := searched ++ (outcomes.filterMap (·.warning)).map Warning.file
            events := outcomes.filterMap parseFailureEvent ++
              [runEvent target [("files", .int paths.length), ("findings", .int findings.length),
                ("parse_failures", .int diagnostics.length)] none clock] }

/-- The outcome of a run whose events are written to a log, and the file system after it. A run
whose events cannot be written has failed. -/
def record (log : RunLog) (clock : Clock) (fs : FileSystem) (o : Outcome) :
    Outcome × FileSystem :=
  match log.appendAll clock.now fs o.events with
  | .ok written => (o, written)
  | .error e => ({ o with result := .error (.log e) }, fs)

/-- The analysis of a target with a log of it. -/
def analyzeLogged (log : RunLog) (fs : FileSystem) (host : Host) (config : Config)
    (clock : Clock) (target : Path) (names : Option (List String)) : Outcome × FileSystem :=
  match log.start fs with
  | .error e => ({ result := .error (.log e) }, fs)
  | .ok ready =>
    record log clock ready (analyzePath ready host config clock target names)

end Analysis

end SmellScan
