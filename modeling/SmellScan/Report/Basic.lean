import SmellScan.Finding

/-!
# Reports

The outcome of an analysis, and its findings by file.
-/

namespace SmellScan

/-- The outcome of the analysis of a file or a directory. -/
structure Report where
  root : String
  filesAnalyzed : Int := 0
  findings : List Finding := []
  diagnostics : List Diagnostic := []
  /-- How long the analysis took, in seconds. -/
  duration : Double := .zero
  deriving DecidableEq, Repr

namespace Report

/-- Groups with a finding added to the group of its file, which is begun if there is none. -/
def addToGroup (f : Finding) : List (String × List Finding) → List (String × List Finding)
  | [] => [(f.file, [f])]
  | (file, fs) :: rest =>
    if file == f.file then (file, fs ++ [f]) :: rest else (file, fs) :: addToGroup f rest

/-- The findings by file, in the order in which files and findings first appear. -/
def byFile (report : Report) : List (String × List Finding) :=
  report.findings.foldl (fun groups f => addToGroup f groups) []

/-- Counts with one added for a name, which is begun if there is none. -/
def addCount (name : String) : List (String × Nat) → List (String × Nat)
  | [] => [(name, 1)]
  | (other, n) :: rest =>
    if other == name then (other, n + 1) :: rest else (other, n) :: addCount name rest

/-- How often each smell was found, in the order of first appearance. -/
def smellCounts (report : Report) : List (String × Nat) :=
  report.findings.foldl (fun counts f => addCount f.smell counts) []

/-- The findings for each file with any, on average; zero if there are none. -/
def average (report : Report) : Double :=
  let files := report.byFile.length
  if files = 0 then .zero else .ofRatio report.findings.length files

end Report

end SmellScan
