import SmellScan.Report.Basic

/-!
# Reports as Markdown

A table for each file, and a list of the files that could not be analysed.
-/

namespace SmellScan.Report

/-- A cell of a table, with a backslash before each bar. -/
def escapeBars (s : String) : String :=
  String.ofList (s.toList.flatMap fun c => if c = '|' then ['\\', '|'] else [c])

/-- The row of a finding. -/
def markdownRow (f : Finding) : String :=
  s!"| {f.line} | {f.smell} | {escapeBars f.description} |"

/-- The section of a file. -/
def markdownSection : String × List Finding → List String
  | (file, findings) =>
    ["## " ++ file, "| Line | Smell | Defect |", "|---|---|---|"] ++
      findings.map markdownRow ++ [""]

/-- The section of the diagnostics, if there are any. -/
def markdownDiagnostics (diagnostics : List Diagnostic) : List String :=
  if diagnostics.isEmpty then []
  else
    ["## Parse Failures"] ++
      diagnostics.map (fun d => "- `" ++ d.file ++ "`: " ++ d.message) ++ [""]

/-- The lines of a report as Markdown. -/
def markdownLines (r : Report) : List String :=
  ["# Code Smell Report: " ++ r.root, "", s!"**Files analyzed**: {r.filesAnalyzed}",
    s!"**Total code smells**: {r.findings.length}", ""] ++
  r.byFile.flatMap markdownSection ++ markdownDiagnostics r.diagnostics

/-- The text of a report as Markdown. -/
def markdown (r : Report) : String :=
  "\n".intercalate r.markdownLines

end SmellScan.Report
