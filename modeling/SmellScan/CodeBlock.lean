import SmellScan.SyntaxNode

/-!
# Code blocks

The functions of a tree that may be near-copies of each other, held by start line in the order in
which they are met. Of several on one line the first in pre-order stays, which is the outermost.
-/

namespace SmellScan

/-- The source of one function. -/
structure CodeBlock where
  line : Int
  kind : NodeKind
  name : String
  text : String
  deriving DecidableEq, Repr

/-- Blocks by key, in order of insertion. Each key stands at most once. -/
abbrev BlockTable := List (Int × CodeBlock)

namespace BlockTable

/-- The table with a block at a key. A block already there is replaced in its place. -/
def insert (table : BlockTable) (key : Int) (block : CodeBlock) : BlockTable :=
  if table.any (·.1 == key) then table.map fun e => if e.1 == key then (key, block) else e
  else table ++ [(key, block)]

/-- The blocks by ascending key. -/
def sortedBlocks (table : BlockTable) : List CodeBlock :=
  (table.mergeSort fun a b => a.1 ≤ b.1).map (·.2)

end BlockTable

namespace CodeBlock

/-- The shortest text collected unless a caller says otherwise. -/
def defaultMinLength : Int := 5

/-- The name of a block that has none of its own. -/
def anonymous : String := "anonymous"

/-- The name, or a stand-in for one that is absent or empty. -/
def nameOr (standIn : String) : Option String → String
  | some name => if name.isEmpty then standIn else name
  | none => standIn

/-- The block of a node that is a function with a place, a text and enough characters. -/
def ofInfo? (minLength : Int) (info : NodeInfo) : Option CodeBlock :=
  if info.kind.isBlock then
    match info.line, info.text with
    | some line, some text =>
      if text.length < minLength then none
      else some ⟨line, info.kind, nameOr anonymous info.name, text⟩
    | _, _ => none
  else none

/-- The table after meeting a node: its block is added if its line holds none yet. -/
def collect (minLength : Int) (info : NodeInfo) (table : BlockTable) : BlockTable :=
  match ofInfo? minLength info with
  | some block =>
    if table.any (·.1 == block.line) then table else table ++ [(block.line, block)]
  | none => table

mutual

/-- The table after a walk over a node: the node, then its children, its arguments, its body. -/
def visit (minLength : Int) : SyntaxNode → BlockTable → BlockTable
  | .mk info body arguments children, table =>
    visitBody minLength body
      (visitAll minLength arguments (visitAll minLength children (collect minLength info table)))

/-- The table after a walk over a body. -/
def visitBody (minLength : Int) : Body SyntaxNode → BlockTable → BlockTable
  | .none, table => table
  | .one n, table => visit minLength n table
  | .seq ns, table => visitAll minLength ns table

/-- The table after a walk over several nodes in order. -/
def visitAll (minLength : Int) : List SyntaxNode → BlockTable → BlockTable
  | [], table => table
  | n :: ns, table => visitAll minLength ns (visit minLength n table)

end

/-- The blocks of a tree whose text has at least `minLength` characters. -/
def extract (root : SyntaxNode) (minLength : Int) : BlockTable :=
  visit minLength root []

/-- An extractor, which goes over one tree after the other. -/
structure Extractor where
  /-- The shortest text that is collected. -/
  minLength : Int := defaultMinLength
  /-- The blocks of the tree that it went over last. -/
  blocks : BlockTable := []

/-- The blocks of the next tree, and the extractor as that tree leaves it. The blocks of the tree
before are dropped at the start. -/
def Extractor.extract (e : Extractor) (root : SyntaxNode) : BlockTable × Extractor :=
  let e := { e with blocks := [] }
  let e := { e with blocks := visit e.minLength root e.blocks }
  (e.blocks, e)

/-- The blocks of several trees that an extractor goes over one after the other. -/
def Extractor.extractAll (e : Extractor) : List SyntaxNode → List BlockTable
  | [] => []
  | root :: roots =>
    let (blocks, e) := e.extract root
    blocks :: e.extractAll roots

end CodeBlock

end SmellScan
