import SmellScan.NodeKind
import SmellScan.ParseTree
import SmellScan.Text.Dedent
import SmellScan.Text.Utf8

/-!
# Tagged syntax trees

The tree that the analyses walk: each node has a kind, and its children stand in slots. The body
is absent, a single node, or a sequence; arguments are those of a call; all other children keep
their source order. `SyntaxNode.ofParseTree` sorts the nodes of a parse tree into these slots, and
`SyntaxNode.build` refuses trees with errors and trees too high to walk.
-/

namespace SmellScan

/-- The body slot of a node. -/
inductive Body (α : Type) where
  | none
  | one (node : α)
  | seq (nodes : List α)
  deriving Repr

/-- The nodes of a body, whatever its shape. -/
def Body.toList {α : Type} : Body α → List α
  | .none => []
  | .one node => [node]
  | .seq nodes => nodes

/-- What a node carries besides its children. -/
structure NodeInfo where
  kind : NodeKind
  /-- The grammar's name for the node. -/
  type : String
  /-- The line, from 1, of a node that has a place in the source. -/
  line : Option Int
  name : Option String
  /-- The source of a function, without the margin of its surroundings. -/
  text : Option String
  deriving DecidableEq, Repr

/-- A node of the tagged tree. -/
inductive SyntaxNode where
  | mk (info : NodeInfo) (body : Body SyntaxNode) (arguments children : List SyntaxNode)
  deriving Repr

namespace SyntaxNode

/-- What the node carries. -/
def info : SyntaxNode → NodeInfo
  | .mk info _ _ _ => info

/-- The body slot. -/
def body : SyntaxNode → Body SyntaxNode
  | .mk _ body _ _ => body

/-- The arguments of a call. -/
def arguments : SyntaxNode → List SyntaxNode
  | .mk _ _ arguments _ => arguments

/-- The children outside the other slots. -/
def children : SyntaxNode → List SyntaxNode
  | .mk _ _ _ children => children

/-- Every direct child: children, then arguments, then body. -/
def directChildren (n : SyntaxNode) : List SyntaxNode :=
  n.children ++ n.arguments ++ n.body.toList

mutual

/-- The number of nodes. -/
def size : SyntaxNode → Nat
  | .mk _ body arguments children =>
    1 + bodySize body + forestSize arguments + forestSize children

/-- The number of nodes of a body. -/
def bodySize : Body SyntaxNode → Nat
  | .none => 0
  | .one n => size n
  | .seq ns => forestSize ns

/-- The number of nodes of several trees. -/
def forestSize : List SyntaxNode → Nat
  | [] => 0
  | n :: ns => size n + forestSize ns

end

theorem forestSize_append (ns ms : List SyntaxNode) :
    forestSize (ns ++ ms) = forestSize ns + forestSize ms := by
  induction ns with
  | nil => simp [forestSize]
  | cons n ns ih => simp [forestSize, ih, Nat.add_assoc]

theorem forestSize_toList (b : Body SyntaxNode) : forestSize b.toList = bodySize b := by
  cases b <;> simp [Body.toList, bodySize, forestSize]

theorem forestSize_directChildren (n : SyntaxNode) :
    forestSize n.directChildren + 1 = n.size := by
  cases n
  simp only [directChildren, forestSize_append, forestSize_toList, children, arguments, body, size]
  omega

end SyntaxNode

/-! ## From parse trees -/

/-- The kind of a node by its type and that of its parent: a method is a class method only right
inside a class body. -/
def NodeKind.ofType (parent : Option String) (type : String) : NodeKind :=
  if type == "method_definition" then
    if parent == some "class_body" then .classMethod else .other
  else if type == "function_declaration" || type == "generator_function_declaration" then
    .functionDeclaration
  else if type == "function_expression" || type == "function" || type == "generator_function" then
    .functionExpression
  else if type == "arrow_function" then .arrowFunction
  else if type == "call_expression" then .callExpression
  else .other

namespace ParseNode

/-- A container whose named children are its body, in order. -/
def isSequence (info : ParseNode) : Bool :=
  info.type == "program" || info.type == "statement_block" || info.type == "class_body"

/-- A node without meaning for the analyses. -/
def isSkipped (info : ParseNode) : Bool :=
  info.type == "comment" || info.type == "hash_bang_line"

/-- A node that becomes a syntax node where no field gives it another role. -/
def isKept (info : ParseNode) : Bool :=
  info.named && !info.isSkipped

/-- The source between the node's byte positions. -/
def sourceText (source : List UInt8) (info : ParseNode) : String :=
  String.ofList (Text.decodeUtf8 (Text.slice source info.start info.stop))

end ParseNode

/-- The children of a node, sorted into slots. -/
structure Slots where
  body : Option SyntaxNode := none
  arguments : List SyntaxNode := []
  children : List SyntaxNode := []

/-- The body slot of a node that is no container. -/
def Body.ofOption {α : Type} : Option α → Body α
  | .none => .none
  | .some node => .one node

namespace SyntaxNode

/-- What a node carries: its name is the source of the first child in the field `name`, and only a
function carries its text. -/
def infoOf (source : List UInt8) (parent : Option String) (info : ParseNode)
    (children : List ParseTree) : NodeInfo :=
  let kind := NodeKind.ofType parent info.type
  { kind
    type := info.type
    line := some info.line
    name := (children.find? (·.info.field == some "name")).map (·.info.sourceText source)
    text := if kind.isFunction then some (Text.blockText (info.sourceText source)) else none }

mutual

/-- The syntax node of a parse tree below a parent of the given type. -/
def convert (source : List UInt8) (parent : Option String) : ParseTree → SyntaxNode
  | .node info children =>
    if info.isSequence then
      .mk { kind := NodeKind.ofType parent info.type, type := info.type, line := some info.line,
            name := none, text := none }
        (.seq (convertAll source info.type children)) [] []
    else
      let info' := infoOf source parent info children
      let slots := convertSlots source info.type true (info'.kind == .callExpression) children
      .mk info' (Body.ofOption slots.body) slots.arguments slots.children

/-- The syntax nodes of the kept children of a node of type `parent`. -/
def convertAll (source : List UInt8) (parent : String) : List ParseTree → List SyntaxNode
  | [] => []
  | t :: ts =>
    if t.info.isKept then convert source (some parent) t :: convertAll source parent ts
    else convertAll source parent ts

/-- The children of a node of type `parent`, sorted into slots. The first child in the field `body`
is the body, kept or not. While `wantsArguments` holds, the first child in the field `arguments` is
taken apart if it is an argument list, and is a child like any other if not. -/
def convertSlots (source : List UInt8) (parent : String) (wantsBody wantsArguments : Bool) :
    List ParseTree → Slots
  | [] => {}
  | .node info children :: ts =>
    if wantsBody && info.field == some "body" then
      let rest := convertSlots source parent false wantsArguments ts
      { rest with body := some (convert source (some parent) (.node info children)) }
    else if wantsArguments && info.field == some "arguments" && info.type == "arguments" then
      let rest := convertSlots source parent wantsBody false ts
      { rest with arguments := convertAll source info.type children }
    else
      let rest := convertSlots source parent wantsBody
        (wantsArguments && info.field != some "arguments") ts
      if info.isKept then
        { rest with
          children := convert source (some parent) (.node info children) :: rest.children }
      else rest

end

/-- The tagged tree of a parse tree over a source. -/
def ofParseTree (source : List UInt8) (t : ParseTree) : SyntaxNode :=
  convert source none t

end SyntaxNode

/-- Why a source has no tagged tree. -/
inductive ParseFailure where
  /-- The source has an error, near the given line. -/
  | syntaxError (line : Int)
  /-- The parse tree has more levels than are walked. -/
  | tooDeep
  deriving DecidableEq, Repr

/-- The text of a failure in a diagnostic. -/
def ParseFailure.message : ParseFailure → String
  | .syntaxError line => s!"Syntax error near line {line}"
  | .tooDeep => "Syntax tree is nested too deeply to analyze"

/-- The tagged tree of a source, given what the parser makes of it. Trees that are refused have too
many levels. -/
def SyntaxNode.build (refuses : ParseTree → Bool) (source : String) (t : ParseTree) :
    Except ParseFailure SyntaxNode :=
  if t.info.hasError then .error (.syntaxError t.firstErrorLine)
  else if refuses t then .error .tooDeep
  else .ok (SyntaxNode.ofParseTree (Text.encodeUtf8 source.toList) t)

end SmellScan
