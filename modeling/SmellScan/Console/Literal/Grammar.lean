import SmellScan.Console.Literal.Grammar.Operator

/-!
# Reading an expression

The rules of the grammar are tied together, and the tokens of a text are read by them. If they do
not match, they are read once more to find out why.
-/

namespace SmellScan.Console.Literal

open Recognizer Grammar

/-- The outcome of a rule. A rule that is reached from itself has taken a token on the way, so the
number of rules times that of the tokens bounds the steps. -/
def rule : (steps : Nat) → Rule → Recognizer Expr
  | 0, _ => mismatch
  | steps + 1, r =>
    let body := Grammar.body (rule steps) r
    nested (keep r (if grows r then nested body else body))

/-- What may stand on its own. -/
inductive Start where
  /-- A whole text. -/
  | text
  /-- The beginning of a text. -/
  | beginning

/-- A recognizer of what may stand on its own. -/
def Start.recognizer (start : Start) : Recognizer Expr := do
  let call := rule (20 * ((← read).source.tokens.size + 1))
  match start with
  | .beginning => nested (starExpressions call)
  | .text => nested do
    let e ← expressions call
    let _ ← many (token fun kind => if kind = .newline then some () else none)
    token fun kind => if kind = .finish then some () else none
    return e

/-- A fault that is found by a rule, when the furthest token that was looked at is known. A fault in
the tokens behind it comes first, and so does a bracket that is open since an earlier line. -/
def settle (setting : Setting) (reached : Nat) (fault : LiteralFault) : LiteralFault :=
  match fault, setting.source.fault, setting.source.certain, setting.source.unclosed with
  | .value f, _, _, _ => .value f
  | .form _, some f, true, _ => .form f
  | .form _, some _, false, some b =>
    if b.line < (setting.source.tokens[reached]?.map Token.line).getD 0 then
      setting.report (.neverClosed b.opener)
    else fault
  | .form _, _, _, _ => fault

/-- A fault that a rule refuses the text with. When the text has been read to its very end, the
brackets do not matter any more. -/
def settleRefused (setting : Setting) (reached : Nat) (fault : LiteralFault) : LiteralFault :=
  if setting.source.runsToEnd && reached + 1 == setting.source.tokens.size then fault
  else settle setting reached fault

/-- The expression that tokens make up. They are read once, and once more to explain what is wrong
with them if they do not match. -/
def parse (start : Start) (setting : Setting) : Except LiteralFault Expr :=
  let inTokens : LiteralFault :=
    match setting.source.fault with
    | some f => if setting.source.certain then .form f else setting.report f
    | none => setting.report .unexpected
  match start.recognizer setting ⟨0, 0, ∅⟩ with
  | .ok e _ => .ok e
  | .error .tokens _ => .error inTokens
  | .error (.fault f) s => .error (settleRefused setting s.reached f)
  | .error _ s =>
    let last := s.reached
    match start.recognizer { setting with explain := true } ⟨0, last, ∅⟩ with
    | .error .tokens _ => .error inTokens
    | .error (.fault f) s => .error (settleRefused setting s.reached f)
    | .ok _ s | .error _ s =>
      match setting.source.tokens[last]?.map Token.kind with
      | some .indent => .error (setting.report .indented)
      | _ => .error (settle setting s.reached (setting.report .unexpected))

end SmellScan.Console.Literal
