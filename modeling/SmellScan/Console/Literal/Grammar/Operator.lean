import SmellScan.Console.Literal.Grammar.Argument
import SmellScan.Console.Literal.Grammar.Bracket
import SmellScan.Console.Literal.Grammar.Parameter

/-!
# Operators

Expressions joined by operators, from the calls that bind most closely to the conditions that bind
least, and what the rules whose outcome is kept consist of.
-/

namespace SmellScan.Console.Literal.Grammar

open Recognizer

variable (call : Rule → Recognizer Expr)

/-- The attribute of an expression, or a call of it. -/
def trailer (e : Expr) : List (Recognizer Expr) := [
  do
    mark "."
    let _ ← name
    return .attribute e,
  return .call e [← generator call],
  do
    mark "("
    let arguments ← option (call .arguments)
    mark ")"
    return .call e ((arguments.map Expr.callArguments).getD [])]

/-- An expression followed by operators of the same rank, each with an operand of a higher rank. -/
def operations (higher : Rule) (marks : List String) : Recognizer Expr :=
  grow (call higher) fun e => first (marks.map fun s => do
    mark s
    let right ← call higher
    return if s == "+" || s == "-" then .sum e right else .operation [e, right])

/-- Expressions of a higher rank with a word between them. -/
def joined (higher : Rule) (word : String) : Recognizer Expr := first [
  do
    let e ← call higher
    let es ← many1 (nested do mark word; call higher)
    return .operation (e :: es),
  call higher]

/-- A sign of comparison and what it compares with; whether it asks for an element. -/
def compared : Recognizer (Bool × Expr) :=
  let signs (membership : Bool) (marks : List String) : Recognizer (Bool × Expr) := nested do
    marks.forM mark
    return (membership, ← call .bitOr)
  oneOf [
    signs false ["=="],
    nested do nested (mark "!="); return (false, ← call .bitOr),
    signs false ["<="], signs false ["<"], signs false [">="], signs false [">"],
    signs false ["not", "in"], signs true ["in"], signs false ["is", "not"], signs false ["is"]]

/-- Expressions that are compared. -/
def comparison : Recognizer Expr := oneOf [
  do
    let e ← call .bitOr
    let es ← many1 (compared call)
    return .comparison (es.head?.any (·.1)) e (es.map (·.2)),
  call .bitOr]

/-- A condition with an alternative, an expression without one, or a function. -/
def conditional : List (Recognizer Expr) := [
  do
    let e ← call .disjunction
    mark "if"
    let condition ← call .disjunction
    mark "else"
    return .other "conditional expression" [condition, e, ← call .expression],
  call .disjunction,
  function call]

/-- A text directly behind a name, or the beginning of a word with a meaning in some places
only. -/
def likeStatement : Recognizer Unit := oneOf [
  do
    let _ ← name
    let _ ← text,
  token fun
    | .name s => if ["_", "case", "match"].any s.isPrefixOf then some () else none
    | _ => none]

/-- Two expressions without a comma between them, or a condition without an alternative. -/
def badExpression : Recognizer Expr := oneOf [
  do
    notAhead likeStatement
    let e ← call .disjunction
    let _ ← plainly (oneOf (conditional call))
    let level := ((← read).source.tokens[(← get).position - 1]?.map Token.level).getD 0
    if e.bareCall?.isSome || level = 0 then mismatch else refuse .missingComma,
  do
    let _ ← call .disjunction
    mark "if"
    let _ ← call .disjunction
    notAhead (oneOf [mark "else", mark ":"])
    refuse .missingElse]

/-- A function that is called without brackets. -/
def badCall : Recognizer Expr := nested do
  let s ← name
  notAhead (mark "(")
  let _ ← starExpressions call
  match (Expr.name s).bareCall? with
  | some s => refuse (.missingCall s)
  | none => mismatch

/-- A value that is bound or assigned to something else than a name. -/
def badNaming : Recognizer Expr :=
  let end_ : Recognizer Unit := notAhead (oneOf [mark "=", mark ":="])
  first [
    do
      let e ← call .expression
      mark ":="
      let _ ← call .expression
      refuse (.bound e.kind),
    do
      let _ ← name
      mark "="
      let _ ← call .bitOr
      end_
      refuse .assignedName,
    do
      notAhead (oneOf [tuple call, generator call, constant "True" "True", constant "None" "None",
        constant "False" "False"])
      let e ← call .bitOr
      mark "="
      let _ ← call .bitOr
      end_
      refuse (.assigned e.kind)]

/-- What a rule whose outcome is kept consists of. -/
def body : Rule → Recognizer Expr
  | .expression => first (explaining (badExpression call) :: explaining (badCall call) ::
      conditional call)
  | .starExpression => first [starredBitOr call, call .expression]
  | .disjunction => joined call .conjunction "or"
  | .conjunction => joined call .inversion "and"
  | .inversion => first [
      do
        mark "not"
        return .operation [← call .inversion],
      comparison call]
  | .bitOr => operations call .bitXor ["|"]
  | .bitXor => operations call .bitAnd ["^"]
  | .bitAnd => operations call .shift ["&"]
  | .shift => operations call .sum ["<<", ">>"]
  | .sum => operations call .term ["+", "-"]
  | .term => operations call .factor ["*", "/", "//", "%", "@"]
  | .factor => first [
      do mark "+"; return .signed (← call .factor),
      do mark "-"; return .signed (← call .factor),
      do mark "~"; return .operation [← call .factor],
      oneOf [
        do
          let e ← call .operand
          mark "**"
          return .operation [e, ← call .factor],
        call .operand]]
  | .operand => first [
      do
        mark "await"
        return .other "await expression" [← call .primary],
      call .primary]
  | .primary => grow (atom call) fun e => first (trailer call e)
  | .texts => do
      let ts ← many1 text
      match (← read).joinTexts ts with
      | .ok e => return e
      | .error fault => throw (.fault fault)
  | .arguments => first [
      do
        let e ← plainArguments call
        let _ ← option (mark ",")
        ahead (mark ")")
        return e,
      explaining (badArguments call)]
  | .starTarget => first [
      do
        mark "*"
        return .starred (← nested do notAhead (mark "*"); call .starTarget),
      call .target]
  | .target => first [
      do
        let e ← call .targetPrimary
        mark "."
        let _ ← name
        notAhead targetGoesOn
        return .attribute e,
      targetAtom call]
  | .targetPrimary =>
      let goesOn (p : Recognizer Expr) : Recognizer Expr := do
        let e ← p
        ahead targetGoesOn
        return e
      grow (goesOn (atom call)) fun e => first ((trailer call e).map goesOn)
  | .misnamed => badNaming call

/-- A rule that grows to the right from an expression of its own rank. -/
def grows : Rule → Bool
  | .bitOr | .bitXor | .bitAnd | .shift | .sum | .term | .primary | .targetPrimary => true
  | _ => false

end SmellScan.Console.Literal.Grammar
