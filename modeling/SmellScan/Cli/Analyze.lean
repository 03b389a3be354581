import SmellScan.Cli.Arguments
import SmellScan.Cli.Session
import SmellScan.Report.Display

/-!
# The commands of analysis and listing

`runAnalysis` analyses a path and prints the report or saves it. Only plain text comes with words
around it; the other formats are for machines.
-/

namespace SmellScan.Cli

/-- What a command is given from outside. -/
structure Surroundings where
  /-- The home directory of the user, if it is known. -/
  home : Option Path
  host : Host
  clock : Clock

/-- What one analysis is told. -/
structure Task where
  config : Config
  path : Path
  smells : Option (List String) := none
  summary : Bool := false
  list : Bool := false
  format : Format := .text
  output : Option String := none

namespace Task

/-- The report is for a machine. -/
def isMachine (t : Task) : Bool :=
  t.format != .text

/-- The file to which the report goes; an empty name is none. -/
def outputFile? (t : Task) : Option String :=
  match t.output with
  | some name => if name.isEmpty then none else some name
  | none => none

/-- The text of a report. -/
def renderReport (t : Task) (host : Host) (r : Report) : String :=
  if t.list && !t.isMachine then r.detected
  else r.render host.quotesReturns t.format t.summary

end Task

open Session

/-- Words for an analysis that gave no report. -/
def reportFailure : Analysis.Failure → Session Unit
  | .target (.missing _) => do
    complain (.markup "[red]Invalid or empty path provided![/red]")
    throw .failed
  | .target (.unsupported _) => do
    complain (.markup "[red]Unsupported file type.[/red]")
    throw .failed
  | .unknownSmell name => do
    complain (.markup ("[red]Unknown code smell:[/red] " ++ name))
    throw .failed
  | failure => throw (.crashed (.analysis failure))

/-- Saves a report to a file and says so. -/
def saveReport (name text : String) : Session Unit := do
  writeFile name text
  say ("Report saved to " ++ name)

/-- Saves a report that has something to say, or prints it. -/
def deliver (host : Host) (t : Task) (r : Report) : Session Unit :=
  match t.outputFile? with
  | some name => saveReport name (t.renderReport host r)
  | none =>
    if t.isMachine || t.list then put (t.renderReport host r ++ "\n")
    else if t.summary then do
      printAll r.totalItems
      printTable r.fileTable
    else printAll r.detailedItems

/-- Prints the diagnostics of a report, then the report. -/
def present (host : Host) (t : Task) (r : Report) : Session Unit := do
  complainAll (Report.diagnosticItems r.diagnostics)
  if r.filesAnalyzed = 0 && !t.isMachine then say "No valid files found to analyze!"
  else if r.findings.isEmpty && !t.isMachine then say "No code smells detected!"
  else deliver host t r

/-- Analyses a path with a log, and keeps the warnings. -/
def analyze (s : Surroundings) (t : Task) : Session (Except Analysis.Failure Report) := do
  let w ← get
  let (outcome, files) := Analysis.analyzeLogged ⟨t.config.logDir⟩ w.files s.host t.config s.clock
    t.path t.smells
  set { w with files, warnings := w.warnings ++ outcome.warnings }
  pure outcome.result

/-- Analyses a path and prints the report or saves it. -/
def runAnalysis (s : Surroundings) (t : Task) : Session Unit := do
  onFiles t.config.ensureDirs
  if !t.isMachine then say ("Analyzing path: " ++ t.path.toString)
  match ← analyze s t with
  | .error failure => reportFailure failure
  | .ok report => present s.host t report

/-- The configuration of the user. -/
def userConfig (s : Surroundings) : Session Config :=
  match s.home with
  | some home => pure (.ofHome home)
  | none => throw (.crashed .homeless)

/-- The task that a command line describes, given the configuration of the user. -/
def taskOf (d : Config) (a : AnalyzeArguments) : Task :=
  { config :=
      { d with
        maxNestingDepth := a.maxDepth.getD d.maxNestingDepth
        similarityThreshold := a.similarityThreshold.getD d.similarityThreshold
        minDuplicateLength := a.minDuplicateLength.getD d.minDuplicateLength
        workers := a.workers }
    path := Path.ofString a.path
    smells := if a.smells.isEmpty then none else some a.smells
    summary := a.summary
    list := a.list
    format := a.format.getD .text
    output := a.output }

/-- The list of all smells. -/
def allSmellsText : String :=
  smellList (Smell.all.map Smell.entry)

/-- Saves the list of smells or prints it as a table. -/
def runSmells (output : Option String) : Session Unit :=
  match output with
  | some name =>
    if name.isEmpty then printTable (smellTable Smell.all) else saveReport name allSmellsText
  | none => printTable (smellTable Smell.all)

end SmellScan.Cli
