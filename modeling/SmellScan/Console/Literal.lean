import SmellScan.Console.Literal.Field
import SmellScan.Console.Literal.Grammar
import SmellScan.Console.Literal.Value

/-!
# Literals

Values written in a tag: numbers, texts in quotes, constants, and tuples, sets and dictionaries of
them. A literal is cut into tokens, the tokens are read as an expression, and the expression has to
have a value. The value itself does not matter, but the fault that is reported if there is none
does.
-/

namespace SmellScan.Console.Literal

/-- The expression in a text. An expression in a field of a text is shorter than the text itself, so
the length of the text bounds how deeply fields are nested. -/
def readExpr : (nesting : Nat) → (start : Start) → List Char → Except LiteralFault Expr
  | 0, _, _ => .error (.value .tooDeep)
  | nesting + 1, start, cs =>
    let inField : Bool := match start with
      | .text => false
      | .beginning => true
    let report (f : FormFault) : LiteralFault := .form (if inField then .inField f else f)
    let inner (cs : List Char) : Except LiteralFault Unit :=
      (readExpr nesting .beginning ('(' :: cs ++ [')', '\n'])).map fun _ => ()
    parse start
      { source := scan cs, joinTexts := joinTexts inner report none, inField, explain := false
        depth := 0 }

/-- A text is a literal. -/
def check (cs : List Char) : Except LiteralFault Unit :=
  if cs.contains '\x00' then .error (.value .nullCharacter)
  else do
    let e ← readExpr (cs.length + 1) .text (cs.dropWhile fun c => c == ' ' || c == '\t')
    (checkValue e).mapError .value

end SmellScan.Console.Literal
