import SmellScan.Console.Item

/-!
# Panels and tables

A panel is a text in a frame as wide as the console. A table has a title, a head and rows; each
column is as wide as its widest cell, with a space on either side. If the columns do not fit the
console, the widest gives way, and its cells are wrapped.
-/

namespace SmellScan.Console

open Text

/-- A character repeated. -/
def repeated (n : Nat) (c : Char) : String :=
  String.ofList (List.replicate n c)

/-- How a text stands in a column. -/
inductive Justify where
  | left
  | right
  | center
  deriving DecidableEq, Repr

/-- A text filled up with spaces to a width. Of an odd number of spaces around a centred text, the
larger part goes behind it. -/
def pad (justify : Justify) (total : Nat) (s : String) : String :=
  let spare := total - cellWidth s
  match justify with
  | .left => s ++ repeated spare ' '
  | .right => repeated spare ' ' ++ s
  | .center => repeated (spare / 2) ' ' ++ s ++ repeated (spare - spare / 2) ' '

/-- A text in a frame. -/
def panel (s : String) : List Item :=
  [.plain ("╭" ++ repeated (width - 2) '─' ++ "╮")] ++
  ((wrap (width - 4) s).map fun line => .plain ("│ " ++ pad .left (width - 4) line ++ " │")) ++
  [.plain ("╰" ++ repeated (width - 2) '─' ++ "╯")]

/-- A column of a table. -/
structure Column where
  head : String
  justify : Justify := .left

/-- The lines of a cell of a column that is `w` cells wide. Blanks behind a line count only at the
left. -/
def Column.lines (c : Column) (w : Nat) (cell : String) : List String :=
  (printedLines cell).flatMap fun line =>
    (breakLine .ellipsis w line).map fun piece =>
      let piece := dropExcess w piece
      let piece := if c.justify = .left then piece else trimRight piece
      pad c.justify w (String.ofList (truncate .ellipsis w piece))

/-- A table whose cells are texts with markup. -/
structure Table where
  title : String
  columns : List Column
  rows : List (List String)

namespace Table

/-- The cells as they print. -/
def renderRows : List (List String) → Except MarkupError (List (List String))
  | [] => .ok []
  | row :: rest =>
    match row.mapM render with
    | .error e => .error e
    | .ok cells => (renderRows rest).map (cells :: ·)

/-- The width of a cell: that of its widest line. -/
def cellSize (cell : String) : Nat :=
  ((splitBoundaries (printed cell)).map cells).foldl max 0

/-- The width of each column: that of its widest cell, its head included. -/
def wished (columns : List Column) (rows : List (List String)) : List Nat :=
  rows.foldl (fun ws cells => ws.zipWith (fun w cell => max w (cellSize cell)) cells)
    (columns.map fun c => cellSize c.head)

/-- The widths of columns that fit, with three cells for each column and one more: the first of the
widest columns gives way. -/
def fit (ws : List Nat) : List Nat :=
  let room := width - (3 * ws.length + 1)
  let widest := ws.foldl max 0
  let excess := ws.foldl (· + ·) 0 - room
  let (before, rest) := ws.span (· != widest)
  match rest with
  | w :: after => before ++ (w - excess) :: after
  | [] => ws

/-- A line between rows, made of one character with marks at its ends and between columns. -/
def rule (left line middle right : String) (ws : List Nat) : String :=
  left ++ middle.intercalate (ws.map fun w => String.join (List.replicate (w + 2) line)) ++ right

/-- The lines of a row of cells between bars. Cells with fewer lines than others are filled up. -/
def rowLines (bar : String) (columns : List Column) (ws : List Nat) (cells : List String) :
    List String :=
  let shown := (columns.zip (ws.zip cells)).map fun (c, w, cell) => (w, c.lines w cell)
  let height := (shown.map fun (_, lines) => lines.length).foldl max 0
  (List.range height).map fun i =>
    let padded := shown.map fun (w, lines) => " " ++ lines.getD i (repeated w ' ') ++ " "
    bar ++ bar.intercalate padded ++ bar

/-- The lines of a table whose cells are as they print. -/
def layout (title : String) (columns : List Column) (rows : List (List String)) : List String :=
  let ws := fit (wished columns rows)
  let total := (ws.map (· + 3)).foldl (· + ·) 0 + 1
  [pad .center total title, rule "┏" "━" "┳" "┓" ws] ++
  rowLines "┃" columns ws (columns.map (·.head)) ++ [rule "┡" "━" "╇" "┩" ws] ++
  rows.flatMap (rowLines "│" columns ws) ++ [rule "└" "─" "┴" "┘" ws]

/-- The text of a table. -/
def render (t : Table) : Except MarkupError String :=
  (renderRows t.rows).map fun rows => "\n".intercalate (layout t.title t.columns rows) ++ "\n"

end Table

end SmellScan.Console
