import SmellScan.Json.Basic
import SmellScan.SyntaxNode

/-!
# Trees as rows

A tree recorded as a list of rows in pre-order, each with its depth. A row's children are the rows
behind it that are deeper, up to the next that is not.
-/

namespace SmellScan.Workspace

/-- A row put in front of the trees behind it: the deeper ones at the front become its children. -/
def attach {α τ : Type} (build : α → List τ → τ) (row : Nat × α) (pending : List (Nat × τ)) :
    List (Nat × τ) :=
  let isDeeper (entry : Nat × τ) : Bool := row.1 < entry.1
  (row.1, build row.2 ((pending.takeWhile isDeeper).map (·.2))) :: pending.dropWhile isDeeper

/-- The first tree of a list of rows. -/
def treeOfRows {α τ : Type} (build : α → List τ → τ) (rows : List (Nat × α)) : Option τ :=
  ((rows.foldr (attach build) []).head?).map (·.2)

/-- A row of a recorded parse tree: depth, type, named, field, first byte, byte behind the last,
line from 0, flags. -/
def parseRow? (j : Json) : Option (Nat × ParseNode) :=
  match j with
  | .arr [.int depth, .str type, .int named, field, .int start, .int stop, .int row, .str flags] =>
    some (depth.toNat,
      { type, named := named != 0, field := field.str?, start, stop, row,
        hasError := flags.toList.contains 'e', isMissing := flags.toList.contains 'm' })
  | _ => none

/-- A recorded parse tree. -/
def parseTree? (j : Json) : Option ParseTree :=
  j.items?.bind fun rows => treeOfRows ParseTree.node (rows.filterMap parseRow?)

/-- The slots in which a node can stand, and the shapes of its body, as a row names them. -/
structure NodeRow where
  slot : String
  info : NodeInfo
  shape : String

/-- A node from its row and the nodes below it, each with its slot. -/
def buildNode (row : NodeRow) (below : List (String × SyntaxNode)) : String × SyntaxNode :=
  let inSlot (slot : String) : List SyntaxNode := (below.filter (·.1 == slot)).map (·.2)
  let body : Body SyntaxNode :=
    if row.shape == "seq" then .seq (inSlot "b")
    else if row.shape == "one" then Body.ofOption (inSlot "b").head?
    else .none
  (row.slot, .mk row.info body (inSlot "a") (inSlot "c"))

/-- A row of a recorded syntax tree: depth, slot, kind, type, line, name, text, shape of the
body. -/
def nodeRow? (j : Json) : Option (Nat × NodeRow) :=
  match j with
  | .arr [.int depth, .str slot, .str kind, .str type, line, name, text, .str shape] =>
    (NodeKind.ofName? kind).map fun kind =>
      (depth.toNat,
        ⟨slot, { kind, type, line := line.int?, name := name.str?, text := text.str? }, shape⟩)
  | _ => none

/-- A recorded syntax tree. -/
def syntaxTree? (j : Json) : Option SyntaxNode :=
  j.items?.bind fun rows =>
    (treeOfRows buildNode (rows.filterMap nodeRow?)).map (·.2)

/-- The shape of a body as a row names it. -/
def shapeName : Body SyntaxNode → String
  | .none => "none"
  | .one _ => "one"
  | .seq _ => "seq"

/-- A row of a syntax tree. -/
def nodeRow (depth : Nat) (slot : String) (info : NodeInfo) (body : Body SyntaxNode) : Json :=
  .arr [.int depth, .str slot, .str info.kind.name, .str info.type, .ofInt? info.line,
    .ofStr? info.name, .ofStr? info.text, .str (shapeName body)]

mutual

/-- The rows of a node in a slot: its own, then its children, arguments and body. -/
def rowsOf (depth : Nat) (slot : String) : SyntaxNode → List Json
  | .mk info body arguments children =>
    nodeRow depth slot info body ::
      (rowsOfAll (depth + 1) "c" children ++ rowsOfAll (depth + 1) "a" arguments ++
        rowsOfBody (depth + 1) body)

/-- The rows of a body. -/
def rowsOfBody (depth : Nat) : Body SyntaxNode → List Json
  | .none => []
  | .one n => rowsOf depth "b" n
  | .seq ns => rowsOfAll depth "b" ns

/-- The rows of several nodes in one slot. -/
def rowsOfAll (depth : Nat) (slot : String) : List SyntaxNode → List Json
  | [] => []
  | n :: ns => rowsOf depth slot n ++ rowsOfAll depth slot ns

end

/-- A syntax tree as rows. -/
def rowsOfTree (n : SyntaxNode) : Json :=
  .arr (rowsOf 0 "r" n)

/-- The tree of a text for which none was recorded: a single root over all its bytes. -/
def bareTree (byteLength : Nat) : ParseTree :=
  .node ⟨"program", true, none, 0, byteLength, 0, false, false⟩ []

end SmellScan.Workspace
