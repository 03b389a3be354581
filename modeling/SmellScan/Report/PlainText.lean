import SmellScan.Numeric.Decimal
import SmellScan.Report.Basic
import SmellScan.Smell.Registry

/-!
# Reports as plain text

The detailed report, the summary, and the lists of smells.
-/

namespace SmellScan

namespace Report

/-- A path with slashes for backslashes. -/
def forwardSlashes (s : String) : String :=
  String.ofList (s.toList.map fun c => if c = '\\' then '/' else c)

/-- The lines of a finding. -/
def findingLines (f : Finding) : List String :=
  [s!" - [Line {f.line}] {f.smell}", s!"   Defect: {f.description}", s!"   Solution: {f.fix}"] ++
  (match f.details with | some d => [Text.indent "     " d.message] | none => []) ++ [""]

/-- The detailed report. -/
def text (r : Report) : String :=
  "\n".intercalate (r.byFile.flatMap fun (file, findings) =>
    ("FILE: " ++ forwardSlashes file) :: findings.flatMap findingLines)

/-- The summary: totals, and the number of findings in each file. -/
def summary (r : Report) : String :=
  "\n".intercalate (["", "Summary Report:", "===============",
    s!"Total Code Smells: {r.findings.length}",
    "Average Defects Per File: " ++ r.average.fixed 2, "", "Defects by File:"] ++
    r.byFile.map fun (file, findings) => s!"{file}: {findings.length} defects")

/-- The smells that were found, with how often. -/
def detected (r : Report) : String :=
  "\n".intercalate (["", "Detected Code Smells:", "===================="] ++
    r.smellCounts.map fun (smell, count) => s!"- {smell} ({count} occurrences)")

end Report

/-- A smell as a list shows it. -/
structure SmellEntry where
  name : String
  description : String

/-- The entry of a smell. -/
def Smell.entry (s : Smell) : SmellEntry :=
  ⟨s.name, s.description⟩

/-- The description of an entry, or words for one that has none. -/
def SmellEntry.shownDescription (e : SmellEntry) : String :=
  if e.description.isEmpty then "No description available" else e.description

/-- A list of smells. -/
def smellList (entries : List SmellEntry) : String :=
  "\n".intercalate (["", "Available Code Smells:", "======================"] ++
    entries.map fun e => s!"- {e.name}: {e.shownDescription}")

end SmellScan
