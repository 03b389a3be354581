import SmellScan.Console.Literal.Grammar.Comprehension

/-!
# Expressions in brackets and braces

Names, constants and numbers, and what stands in brackets: tuples, groups and generators, and in
braces: dictionaries, sets and their comprehensions.
-/

namespace SmellScan.Console.Literal.Grammar

open Recognizer

variable (call : Rule → Recognizer Expr)

/-- A tuple in brackets. -/
def tuple : Recognizer Expr := nested do
  mark "("
  let es ← option (nested do
    let e ← starNamedExpression call
    mark ","
    return e :: (← option (starNamedExpressions call)).getD [])
  mark ")"
  return .tuple (es.getD [])

/-- A value that is handed to the caller of a generator. -/
def yielded : Recognizer Expr := oneOf [
  do
    mark "yield"
    mark "from"
    return .other "yield expression" [← call .expression],
  do
    mark "yield"
    return .other "yield expression" (← option (starExpressions call)).toList]

/-- Brackets around something starred. -/
def badGroup : Recognizer Expr := oneOf [
  do
    mark "("
    let _ ← starredExpression call
    mark ")"
    refuse .starred,
  do
    mark "("
    mark "**"
    let _ ← call .expression
    mark ")"
    refuse .doubleStarred]

/-- An expression in brackets. -/
def group : Recognizer Expr := oneOf [
  do
    mark "("
    let e ← oneOf [yielded call, namedExpression call]
    mark ")"
    return e,
  explaining (badGroup call)]

/-- A key with its value. -/
def entry : Recognizer Expr := nested do
  let key ← call .expression
  mark ":"
  return .entry key (← call .expression)

/-- An entry of a dictionary. -/
def entryOrUnpacked : Recognizer Expr := oneOf [
  do
    mark "**"
    return .unpacked (← call .bitOr),
  entry call]

/-- A key whose value is starred or missing. -/
def badEntryValue : List (Recognizer Expr) := [
  do
    let _ ← call .expression
    mark ":"
    mark "*"
    let _ ← call .bitOr
    refuse .starredValue,
  do
    let _ ← call .expression
    mark ":"
    ahead (oneOf [mark "\x7d", mark ","])
    refuse .missingValue]

/-- An entry of a dictionary has a fault. -/
def badEntry : Recognizer Expr := oneOf (
  (do
    let _ ← call .expression
    notAhead (mark ":")
    refuse .missingColon) ::
  badEntryValue call)

/-- One of the entries of a dictionary has a fault. -/
def badEntries : Recognizer Expr := oneOf (
  (do
    let _ ← commaList (entryOrUnpacked call)
    mark ","
    badEntry call) ::
  badEntryValue call)

/-- A dictionary. A fault in its entries is looked for in any case. -/
def dict : Recognizer Expr := oneOf [
  do
    mark "\x7b"
    let es ← option (nested do
      let es ← commaList (entryOrUnpacked call)
      let _ ← option (mark ",")
      return es)
    mark "\x7d"
    return .dict (es.getD []),
  do
    mark "\x7b"
    let e ← badEntries call
    mark "\x7d"
    return e]

/-- A set. -/
def set : Recognizer Expr := nested do
  mark "\x7b"
  let es ← starNamedExpressions call
  mark "\x7d"
  return .set es

/-- A comprehension of a dictionary. -/
def dictComprehension : Recognizer Expr := oneOf [
  do
    mark "\x7b"
    let e ← entry call
    let es ← loops call
    mark "\x7d"
    return .other "dict comprehension" (e :: es),
  explaining (nested do
    mark "\x7b"
    mark "**"
    let _ ← call .bitOr
    let _ ← loops call
    mark "\x7d"
    refuse .doubleStarredComprehension)]

/-- A comprehension of a set. -/
def setComprehension : Recognizer Expr := oneOf [
  do
    mark "\x7b"
    let e ← namedExpression call
    let es ← loops call
    mark "\x7d"
    return .other "set comprehension" (e :: es),
  explaining (badComprehension call)]

/-- The token is a text. -/
def text : Recognizer QuotedText :=
  token fun
    | .text t => some t
    | _ => none

/-- A number. An integer of too many digits is refused. -/
def number : Recognizer Expr := do
  let n ← token fun
    | .number n => some n
    | _ => none
  match n with
  | .long digits => refuse (.tooManyDigits Numeral.maxDigits digits)
  | n => return .number n

/-- A word that stands for a constant. -/
def constant (word name : String) : Recognizer Expr := do
  mark word
  return .constant name

/-- The smallest expressions: names, constants, and what stands in brackets or braces. -/
def atom : Recognizer Expr := oneOf [
  return .name (← name),
  constant "True" "True",
  constant "False" "False",
  constant "None" "None",
  do ahead text; call .texts,
  number,
  do ahead (mark "("); oneOf [tuple call, group call, generator call],
  do
    ahead (mark "\x7b")
    oneOf [dict call, set call, dictComprehension call, setComprehension call],
  constant "..." "ellipsis"]

end SmellScan.Console.Literal.Grammar
