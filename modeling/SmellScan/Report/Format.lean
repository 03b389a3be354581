import SmellScan.Report.Csv
import SmellScan.Report.Json
import SmellScan.Report.Markdown
import SmellScan.Report.PlainText

/-!
# Output formats

The four forms in which a report is written to a file.
-/

namespace SmellScan

/-- A form of a report. -/
inductive Format where
  | text
  | json
  | csv
  | md
  deriving DecidableEq, Repr

namespace Format

/-- Every form. -/
def all : List Format := [.text, .json, .csv, .md]

/-- The name of a form. -/
def name : Format → String
  | .text => "text"
  | .json => "json"
  | .csv => "csv"
  | .md => "md"

/-- The form of a name. -/
def ofName? (s : String) : Option Format :=
  all.find? (·.name == s)

end Format

/-- A report in a form, for a writer of tables that quotes carriage returns or does not. Only plain
text has a summary of its own. -/
def Report.render (r : Report) (returns : Bool) (format : Format) (summary : Bool) : String :=
  match format with
  | .json => r.json
  | .csv => r.csv returns
  | .md => r.markdown
  | .text => if summary then r.summary else r.text

end SmellScan
