import SmellScan.Numeric.Decimal
import SmellScan.Report.Basic

/-!
# Reports as comma separated values

One record for each finding, under a record of column names. A cell with a comma, a quote or a line
feed stands in quotes, with its quotes doubled. Releases of the writer differ in whether a carriage
return does the same to a cell, so that is given from outside.
-/

namespace SmellScan.Report

namespace Csv

/-- A cell needs quotes. `returns` says whether a carriage return makes it so. -/
def needsQuotes (returns : Bool) (cs : List Char) : Bool :=
  cs.any fun c => c == ',' || c == '"' || c == '\n' || (returns && c == '\r')

/-- The characters of a cell with its quotes doubled. -/
def doubled (cs : List Char) : List Char :=
  cs.flatMap fun c => if c = '"' then ['"', '"'] else [c]

/-- A cell. -/
def cell (returns : Bool) (s : String) : List Char :=
  if needsQuotes returns s.toList then '"' :: (doubled s.toList ++ ['"']) else s.toList

/-- Cells with commas between them. -/
def cells (returns : Bool) : List String → List Char
  | [] => []
  | [s] => cell returns s
  | s :: rest => cell returns s ++ ',' :: cells returns rest

/-- A record, with the line feed that ends it. -/
def record (returns : Bool) (row : List String) : List Char :=
  cells returns row ++ ['\n']

/-- The names of the columns. -/
def columns : List String :=
  ["file", "line", "smell", "description", "fix", "similarity"]

/-- The cells of a finding. The score of a near-copy has four places. -/
def row (f : Finding) : List String :=
  [f.file, toString f.line, f.smell, f.description, f.fix,
    match f.details with | some d => d.similarity.fixed 4 | none => ""]

/-- The rows of a report. -/
def rows (r : Report) : List (List String) :=
  columns :: r.findings.map row

end Csv

/-- The text of a report as comma separated values. -/
def csv (r : Report) (returns : Bool) : String :=
  String.ofList ((Csv.rows r).flatMap (Csv.record returns))

end SmellScan.Report
