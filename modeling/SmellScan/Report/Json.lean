import SmellScan.Json.Printer
import SmellScan.Report.Basic

/-!
# Reports as JSON

Every part of a report as a value of JSON, fields in a fixed order.
-/

namespace SmellScan

open Similarity (LineCluster)

/-- A named block as JSON. -/
def BlockRef.toJson (b : BlockRef) : Json :=
  .obj [("start_line", .int b.startLine), ("type", .str b.type), ("name", .str b.name)]

/-- A shared run as JSON. -/
def Similarity.LineCluster.toJson (c : LineCluster) : Json :=
  .obj [("block1_lines", .arr (c.linesA.map .int)), ("block2_lines", .arr (c.linesB.map .int)),
    ("code", .arr (c.code.map .str))]

/-- The evidence for a near-copy as JSON. -/
def DuplicateDetail.toJson (d : DuplicateDetail) : Json :=
  .obj [("block1", d.block1.toJson), ("block2", d.block2.toJson),
    ("similarity", .float d.similarity), ("similar_lines", .arr (d.similarLines.map (·.toJson))),
    ("message", .str d.message)]

/-- A finding as JSON. -/
def Finding.toJson (f : Finding) : Json :=
  .obj [("file", .str f.file), ("line", .int f.line), ("smell", .str f.smell),
    ("description", .str f.description), ("fix", .str f.fix),
    ("details", match f.details with | some d => d.toJson | none => .null)]

/-- A diagnostic as JSON. -/
def Diagnostic.toJson (d : Diagnostic) : Json :=
  .obj [("file", .str d.file), ("message", .str d.message)]

namespace Report

/-- A report as JSON. -/
def toJson (r : Report) : Json :=
  .obj [("root", .str r.root), ("files_analyzed", .int r.filesAnalyzed),
    ("findings", .arr (r.findings.map (·.toJson))),
    ("diagnostics", .arr (r.diagnostics.map (·.toJson))), ("duration_seconds", .float r.duration)]

/-- The text of a report as JSON. -/
def json (r : Report) : String :=
  r.toJson.indented

end Report

end SmellScan
