import SmellScan.Console.Literal.Recognizer

/-!
# Parameters of functions

The parameters of a function without a name. A slash ends those that cannot be named, a star begins
those that have to be, and defaults stand behind equals signs.
-/

namespace SmellScan.Console.Literal.Grammar

open Recognizer

variable (call : Rule → Recognizer Expr)

/-- A default behind a parameter. -/
def default : Recognizer Unit := oneOf [
  do
    mark "="
    let _ ← call .expression,
  explaining do
    nested do
      mark "="
      ahead (oneOf [mark ")", mark ","])
      refuse .emptyDefault]

/-- The name of a parameter. -/
def parameterName : Recognizer Unit := nested do
  let _ ← name

/-- A parameter ends with a comma, or before the colon. -/
def parameter (p : Recognizer Unit) : Recognizer Unit := oneOf [
  do parameterName; p; mark ",",
  do parameterName; p; ahead (mark ":")]

/-- A parameter without a default. -/
def parameterPlain : Recognizer Unit :=
  parameter (pure ())

/-- A parameter with a default. -/
def parameterDefault : Recognizer Unit :=
  parameter (default call)

/-- A parameter with a default or without. -/
def parameterAny : Recognizer Unit :=
  parameter (do let _ ← option (default call))

/-- The slash among parameters, which a comma or the colon follows. -/
def slash (before : Recognizer Unit) : Recognizer Unit := oneOf [
  do before; mark "/"; mark ",",
  do before; mark "/"; ahead (mark ":")]

/-- Parameters without a default, and a slash. -/
def slashPlain : Recognizer Unit :=
  slash (do let _ ← many1 parameterPlain)

/-- Parameters of which the last have a default, and a slash. -/
def slashDefault : Recognizer Unit :=
  slash (do let _ ← many parameterPlain; let _ ← many1 (parameterDefault call))

/-- A parameter with two stars has a fault. -/
def badDoubleStar : Recognizer Unit := oneOf [
  do mark "**"; parameterName; mark "="; refuse .doubleStarDefault,
  do mark "**"; parameterName; mark ","; parameterName; refuse .behindDoubleStar,
  do
    mark "**"; parameterName; mark ","
    nested (first [mark "*", mark "**", mark "/"])
    refuse .behindDoubleStar]

/-- A parameter with two stars. -/
def doubleStar : Recognizer Unit := oneOf [
  explaining badDoubleStar,
  do mark "**"; parameterPlain]

/-- The star among parameters has a fault. -/
def badStar : Recognizer Unit := oneOf [
  do
    mark "*"
    oneOf [mark ":", do mark ","; oneOf [mark ":", mark "**"]]
    refuse .nothingBehindStar,
  do mark "*"; parameterName; mark "="; refuse .starDefault,
  do
    mark "*"
    oneOf [parameterPlain, mark ","]
    let _ ← many (parameterAny call)
    mark "*"
    oneOf [parameterPlain, mark ","]
    refuse .secondStar]

/-- The star among parameters, and what follows it. -/
def star : Recognizer Unit := oneOf [
  explaining (badStar call),
  do
    mark "*"; parameterPlain
    let _ ← many (parameterAny call)
    let _ ← option doubleStar,
  do
    mark "*"; mark ","
    let _ ← many1 (parameterAny call)
    let _ ← option doubleStar,
  doubleStar]

/-- The parameters of a function have a fault. -/
def badParameters : Recognizer Unit :=
  let slashAny : Recognizer Unit := oneOf [slashPlain, slashDefault call]
  oneOf [
    do
      let _ ← many parameterPlain
      oneOf [slashDefault call, do let _ ← many1 (parameterDefault call)]
      parameterPlain
      refuse .missingDefault,
    do
      let _ ← many parameterPlain
      mark "("
      let _ ← commaList parameterName
      let _ ← option (mark ",")
      mark ")"
      refuse .bracketedParameters,
    do mark "/"; mark ","; refuse .nothingBeforeSlash,
    do
      slashAny
      let _ ← many (parameterAny call)
      mark "/"
      refuse .secondSlash,
    do
      let _ ← option slashAny
      let _ ← many (parameterAny call)
      mark "*"
      oneOf [mark ",", parameterPlain]
      let _ ← many (parameterAny call)
      mark "/"
      refuse .slashBehindStar,
    do
      let _ ← many1 (parameterAny call)
      mark "/"
      mark "*"
      refuse .slashAtStar]

/-- The parameters of a function. -/
def parameters : Recognizer Unit := oneOf [
  explaining (badParameters call),
  oneOf [
    do
      slashPlain
      let _ ← many parameterPlain
      let _ ← many (parameterDefault call)
      let _ ← option (star call),
    do
      slashDefault call
      let _ ← many (parameterDefault call)
      let _ ← option (star call),
    do
      let _ ← many1 parameterPlain
      let _ ← many (parameterDefault call)
      let _ ← option (star call),
    do
      let _ ← many1 (parameterDefault call)
      let _ ← option (star call),
    star call]]

/-- A function without a name. -/
def function : Recognizer Expr := nested do
  mark "lambda"
  let _ ← option (parameters call)
  mark ":"
  return .other "lambda" [← call .expression]

end SmellScan.Console.Literal.Grammar
