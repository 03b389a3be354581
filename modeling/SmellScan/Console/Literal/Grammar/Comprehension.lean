import SmellScan.Console.Literal.Grammar.Sequence

/-!
# Comprehensions

Loops behind an expression, and generators. Behind the rules for what is well formed stand those
that explain what is not.
-/

namespace SmellScan.Console.Literal.Grammar

open Recognizer

variable (call : Rule → Recognizer Expr)

/-- A loop over something that cannot be assigned to. -/
def badLoop : Recognizer Expr := nested do
  let _ ← option (mark "async")
  mark "for"
  match (← starExpressions call).badTarget? with
  | some e => refuse (.loopTarget e.kind)
  | none => mismatch

/-- A loop, with its conditions. Once it is clear what it runs over, it has to be a loop. -/
def loop : Recognizer Expr :=
  let rest : Recognizer Expr := do
    mark "for"
    let target ← targets call
    mark "in"
    commit do
      let range ← call .disjunction
      let conditions ← many (nested do mark "if"; call .disjunction)
      return .other "loop" (target :: range :: conditions)
  oneOf [
    do mark "async"; rest,
    rest,
    explaining (badLoop call)]

/-- The loops of a comprehension. -/
def loops : Recognizer (List Expr) := nested (many1 (loop call))

/-- A comprehension whose values are starred or not in brackets. -/
def badComprehension : Recognizer Expr := oneOf [
  do
    oneOf [mark "[", mark "(", mark "\x7b"]
    let _ ← starredExpression call
    let _ ← loops call
    refuse .starredComprehension,
  do
    oneOf [mark "[", mark "\x7b"]
    let _ ← starNamedExpression call
    mark ","
    let _ ← starNamedExpressions call
    let _ ← loops call
    refuse .bareComprehension,
  do
    oneOf [mark "[", mark "\x7b"]
    let _ ← starNamedExpression call
    mark ","
    let _ ← loops call
    refuse .bareComprehension]

/-- A generator: a comprehension in round brackets. -/
def generator : Recognizer Expr := oneOf [
  do
    mark "("
    let e ← oneOf [binding call, unbound call]
    let es ← loops call
    mark ")"
    return .other "generator expression" (e :: es),
  explaining (badComprehension call)]

end SmellScan.Console.Literal.Grammar
