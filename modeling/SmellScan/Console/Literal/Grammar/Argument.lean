import SmellScan.Console.Literal.Grammar.Comprehension

/-!
# Arguments of calls

Arguments without a name come first, then those with a name; an argument with two stars stands
behind the others.
-/

namespace SmellScan.Console.Literal.Grammar

open Recognizer

variable (call : Rule → Recognizer Expr)

/-- An argument with an equals sign behind something else than a name. -/
def badArgument : Recognizer Expr := oneOf [
  do
    let s ← nested (token fun
      | .mark s => if ["True", "False", "None"].contains s then some s else none
      | _ => none)
    mark "="
    refuse (.assignedConstant s),
  do
    let _ ← name
    mark "="
    let _ ← call .expression
    let _ ← loops call
    refuse .assignedName,
  do
    notAhead (nested do let _ ← name; mark "=")
    let _ ← call .expression
    mark "="
    refuse .assignedArgument]

/-- An argument with a name. -/
def namedArgument : Recognizer Expr := do
  let _ ← name
  mark "="
  return .argument (← call .expression)

/-- An argument that is named or starred. -/
def namedOrStarred : Recognizer Expr := oneOf [
  explaining (badArgument call),
  namedArgument call,
  starredExpression call]

/-- An argument that is named or has two stars. -/
def namedOrUnpacked : Recognizer Expr := oneOf [
  explaining (badArgument call),
  namedArgument call,
  do
    mark "**"
    return .unpacked (← call .expression)]

/-- The arguments from the first with a name on. -/
def namedArguments : Recognizer (List Expr) := oneOf [
  do
    let es ← commaList (namedOrStarred call)
    mark ","
    return es ++ (← commaList (namedOrUnpacked call)),
  commaList (namedOrStarred call),
  commaList (namedOrUnpacked call)]

/-- The arguments of a call, as a call of nothing. -/
def plainArguments : Recognizer Expr := oneOf [
  do
    let es ← commaList (oneOf [
      starredExpression call,
      do
        let e ← oneOf [binding call, unbound call]
        notAhead (mark "=")
        return e])
    let named ← option (nested do mark ","; namedArguments call)
    return .call (.name "") (es ++ named.getD []),
  return .call (.name "") (← namedArguments call)]

/-- The arguments of a call have a fault: a comprehension that is not in brackets, or one of the
arguments in the wrong place. -/
def badArguments : Recognizer Expr := oneOf [
  do
    let _ ← plainArguments call
    mark ","
    mark "*"
    refuse .starredArgument,
  do
    let _ ← call .expression
    let _ ← loops call
    mark ","
    let _ ← option (oneOf [
      plainArguments call,
      do
        let e ← call .expression
        let _ ← loops call
        return e])
    refuse .bareGenerator,
  do
    let _ ← name
    mark "="
    let _ ← call .expression
    let _ ← loops call
    refuse .assignedName,
  do
    let e ← plainArguments call
    let _ ← loops call
    if 1 < e.unnamedArguments.length then refuse .bareGenerator else mismatch,
  do
    let _ ← plainArguments call
    mark ","
    let _ ← call .expression
    let _ ← loops call
    refuse .bareGenerator,
  do
    let e ← plainArguments call
    mark ","
    let _ ← plainArguments call
    refuse (.unnamedArgument e.hasUnpackedArgument)]

end SmellScan.Console.Literal.Grammar
