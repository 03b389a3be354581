import SmellScan.Console.Panel
import SmellScan.Report.PlainText

/-!
# Reports on the console

What is printed of a report: its findings by file under a panel, the table of its files, and the
diagnostics.
-/

namespace SmellScan.Report

open Console

/-- What is printed of a finding. -/
def findingItems (f : Finding) : List Item :=
  [.markup (s!" - [cyan]\\[Line {f.line}][/cyan] [bold]" ++ escape f.smell ++ "[/bold]"),
    .markup ("   [red]Defect:[/red] " ++ escape f.description),
    .markup ("   [green]Solution:[/green] " ++ escape f.fix)] ++
  match f.details with
  | some d => [.plain (Text.indent "     " d.message)]
  | none => []

/-- What is printed of a report in full. -/
def detailedItems (r : Report) : List Item :=
  panel ("Code Smell Report: " ++ r.root) ++
    r.byFile.flatMap fun (file, findings) =>
      .markup ("\n[bold]FILE:[/bold] " ++ escape file) :: findings.flatMap findingItems

/-- The totals above the table of files. -/
def totalItems (r : Report) : List Item :=
  [.markup s!"Total Code Smells: [bold]{r.findings.length}[/bold]",
    .markup ("Average Defects Per File: [bold]" ++ r.average.fixed 2 ++ "[/bold]")]

/-- The table of files. -/
def fileTable (r : Report) : Table :=
  { title := "Defects by File"
    columns := [⟨"File", .left⟩, ⟨"Defects", .right⟩]
    rows := r.byFile.map fun (file, findings) => [escape file, toString findings.length] }

/-- What is printed of diagnostics. -/
def diagnosticItems (diagnostics : List Diagnostic) : List Item :=
  diagnostics.map fun d =>
    .markup ("[yellow]Skipped syntax checks for " ++ escape d.file ++ ":[/yellow] " ++
      escape d.message)

end SmellScan.Report

namespace SmellScan

/-- The table of smells. -/
def smellTable (smells : List Smell) : Console.Table :=
  { title := "Available Code Smells"
    columns := [⟨"Name", .left⟩, ⟨"Description", .left⟩, ⟨"Needs syntax tree", .center⟩]
    rows := smells.map fun s => [s.name, s.description, if s.usesTree then "yes" else ""] }

end SmellScan
