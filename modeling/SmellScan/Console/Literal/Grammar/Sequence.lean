import SmellScan.Console.Literal.Recognizer

/-!
# Sequences of expressions

Expressions with commas between them, with a star before them, or bound to a name, and what a loop
can run over. A rule whose outcome is kept is called by its name through `call`, so that the other
rules can be defined before it.
-/

namespace SmellScan.Console.Literal.Grammar

open Recognizer

variable (call : Rule → Recognizer Expr)

/-! ## Lists and starred expressions -/

/-- One element, or a tuple of several without brackets. -/
def bareTuple (element : Recognizer Expr) : Recognizer Expr := oneOf [
  do
    let e ← element
    let es ← many1 (nested do mark ","; element)
    let _ ← option (mark ",")
    return .tuple (e :: es),
  do
    let e ← element
    mark ","
    return .tuple [e],
  element]

/-- An expression, or several with commas between. -/
def expressions : Recognizer Expr :=
  bareTuple (call .expression)

/-- An expression, starred or not, or several with commas between. -/
def starExpressions : Recognizer Expr :=
  bareTuple (call .starExpression)

/-- A star before an expression. -/
def starredBitOr : Recognizer Expr := do
  mark "*"
  return .starred (← call .bitOr)

/-- A starred argument. -/
def starredExpression : Recognizer Expr := nested do
  mark "*"
  return .starred (← call .expression)

/-- A name that is bound to the value of an expression. -/
def binding : Recognizer Expr := nested do
  let s ← name
  mark ":="
  return .other "named expression" [.name s, ← call .expression]

/-- An expression with nothing bound behind it. -/
def unbound : Recognizer Expr := do
  let e ← call .expression
  notAhead (mark ":=")
  return e

/-- An expression that may bind a name. -/
def namedExpression : Recognizer Expr := oneOf [
  binding call,
  explaining (call .misnamed),
  unbound call]

/-- An expression that may be starred or bind a name. -/
def starNamedExpression : Recognizer Expr := oneOf [
  starredBitOr call,
  namedExpression call]

/-- Expressions that may be starred or bind names. -/
def starNamedExpressions : Recognizer (List Expr) := nested do
  let es ← commaList (starNamedExpression call)
  let _ ← option (mark ",")
  return es

/-! ## Targets of loops -/

/-- What shows that a target goes on. -/
def targetGoesOn : Recognizer Unit := oneOf [mark "(", mark "[", mark "."]

/-- Several targets in brackets. -/
def targetsInBrackets : Recognizer (List Expr) := oneOf [
  do
    let e ← call .starTarget
    let es ← many1 (nested do mark ","; call .starTarget)
    let _ ← option (mark ",")
    return e :: es,
  do
    let e ← call .starTarget
    mark ","
    return [e]]

/-- A name or targets in brackets. -/
def targetAtom : Recognizer Expr := oneOf [
  return .name (← name),
  do
    mark "("
    let e ← call .target
    mark ")"
    return e,
  do
    mark "("
    let es ← option (targetsInBrackets call)
    mark ")"
    return .tuple (es.getD [])]

/-- What a loop runs over: one target, or several with commas between. -/
def targets : Recognizer Expr := oneOf [
  do
    let e ← call .starTarget
    notAhead (mark ",")
    return e,
  do
    let e ← call .starTarget
    let es ← many (nested do mark ","; call .starTarget)
    let _ ← option (mark ",")
    return .tuple (e :: es)]

end SmellScan.Console.Literal.Grammar
