import Std.Data.HashMap
import SmellScan.Console.Literal.Expr

/-!
# Reading expressions from tokens

A recognizer takes tokens from a place on, or does not match. Alternatives are tried in order, each
from the same place, and the first that matches counts. What a rule has made of a place is kept, so
that no place is read over and over. When no alternative matches, the tokens are read once more with
rules that `explain` what is wrong; those never match, but may refuse the text with a fault.

A fault of the tokens themselves arises when a recognizer looks at the place behind the last token.
-/

namespace SmellScan.Console.Literal

/-- The rules whose outcome is kept. -/
inductive Rule where
  | expression
  | starExpression
  | disjunction
  | conjunction
  | inversion
  | bitOr
  | bitXor
  | bitAnd
  | shift
  | sum
  | term
  | factor
  | operand
  | primary
  | texts
  | arguments
  | starTarget
  | target
  | targetPrimary
  | misnamed
  deriving DecidableEq, Hashable, Repr

/-- Why a recognizer gives nothing. -/
inductive Stop where
  /-- The tokens do not match. -/
  | mismatch
  /-- The tokens do not match, and no other alternative may be tried. -/
  | committed
  /-- There is a fault in the tokens behind the last one. -/
  | tokens
  /-- The text is refused. -/
  | fault (f : LiteralFault)

/-- What a recognizer works with. -/
structure Setting where
  source : Source
  /-- What the texts that stand next to each other make. -/
  joinTexts : List QuotedText → Except LiteralFault Expr
  /-- The tokens stand in a field of a text. -/
  inField : Bool
  /-- Rules that explain a fault are tried. -/
  explain : Bool
  /-- How many rules are at work. -/
  depth : Nat

/-- A fault of form, as it is reported. One in a field says so. -/
def Setting.report (setting : Setting) (f : FormFault) : LiteralFault :=
  .form (if setting.inField then .inField f else f)

/-- How far recognizers have come. -/
structure Progress where
  position : Nat
  /-- The furthest token that has been looked at. -/
  reached : Nat
  /-- What rules have made of places: an expression and the place behind it, or nothing. -/
  kept : Std.HashMap (Rule × Nat) (Option (Expr × Nat))

/-- A recognizer of a value. -/
abbrev Recognizer := ReaderT Setting (EStateM Stop Progress)

namespace Recognizer

variable {α β : Type}

/-- The tokens do not match. -/
def mismatch : Recognizer α :=
  throw .mismatch

/-- The text is refused. -/
def refuse (f : FormFault) : Recognizer α := do
  throw (.fault ((← read).report f))

/-- The next token, which is not taken. -/
def peek : Recognizer Token := do
  let setting ← read
  let s ← get
  match setting.source.tokens[s.position]? with
  | some t => do
    set { s with reached := max s.reached s.position }
    return t
  | none => throw .tokens

/-- The next token, if it has a value. -/
def token (value? : TokenKind → Option α) : Recognizer α := do
  let t ← peek
  match value? t.kind with
  | some a => do
    modify fun s => { s with position := s.position + 1 }
    return a
  | none => mismatch

/-- A certain mark. -/
def mark (s : String) : Recognizer Unit :=
  token fun kind => if kind = .mark s then some () else none

/-- A name. -/
def name : Recognizer String :=
  token fun
    | .name s => some s
    | _ => none

/-- The first of several recognizers that matches. -/
def first : List (Recognizer α) → Recognizer α
  | [] => mismatch
  | p :: ps => fun setting s =>
    let start := s.position
    match p setting s with
    | .ok a s => .ok a s
    | .error .mismatch s => first ps setting { s with position := start }
    | .error .committed s => .error .mismatch { s with position := start }
    | .error stop s => .error stop s

/-- A recognizer after which, once it is reached, no other alternative is tried. -/
def commit (p : Recognizer α) : Recognizer α := fun setting s =>
  match p setting s with
  | .error .mismatch s => .error .committed s
  | result => result

/-- What a recognizer gives, or nothing if it does not match. -/
def option (p : Recognizer α) : Recognizer (Option α) :=
  first [do return some (← p), return none]

/-- A recognizer that looks ahead: it matches, and takes nothing. -/
def ahead (p : Recognizer α) : Recognizer Unit := do
  let start := (← get).position
  let _ ← p
  modify fun s => { s with position := start }

/-- A recognizer does not match here. -/
def notAhead (p : Recognizer α) : Recognizer Unit := do
  let start := (← get).position
  match ← option p with
  | some _ => mismatch
  | none => modify fun s => { s with position := start }

/-- The greatest number of rules that may be at work. -/
def maxDepth : Nat := 6000

/-- A recognizer inside another one. Only so many can be nested. -/
def nested (p : Recognizer α) : Recognizer α := fun setting s =>
  if maxDepth ≤ setting.depth then .error (.fault (.value .tooDeep)) s
  else p { setting with depth := setting.depth + 1 } s

/-- The first alternative that matches, as a rule of its own. -/
def oneOf (ps : List (Recognizer α)) : Recognizer α :=
  nested (first ps)

/-- A recognizer that only explains a fault. -/
def explaining (p : Recognizer α) : Recognizer α := do
  if (← read).explain then p else mismatch

/-- A recognizer in which no fault is explained. -/
def plainly (p : Recognizer α) : Recognizer α :=
  fun setting s => p { setting with explain := false } s

/-- What a recognizer gives as often as it matches. Every round takes a token. -/
def repeatFrom (p : Recognizer α) : (rounds : Nat) → Recognizer (List α)
  | 0 => return []
  | rounds + 1 => do
    match ← option p with
    | some a => return a :: (← repeatFrom p rounds)
    | none => return []

/-- What a recognizer gives, as often as it matches. -/
def many (p : Recognizer α) : Recognizer (List α) := nested do
  repeatFrom p (← read).source.tokens.size

/-- What a recognizer gives, as often as it matches, but at least once. -/
def many1 (p : Recognizer α) : Recognizer (List α) := nested do
  let a ← p
  return a :: (← repeatFrom p (← read).source.tokens.size)

/-- What a recognizer gives several times, with commas between. -/
def commaList (p : Recognizer α) : Recognizer (List α) := nested do
  let a ← p
  return a :: (← many do mark ","; p)

/-- An expression that grows to the right as long as a recognizer matches behind it. -/
def growFrom (step : Expr → Recognizer Expr) : (rounds : Nat) → Expr → Recognizer Expr
  | 0, e => return e
  | rounds + 1, e => do
    match ← option (step e) with
    | some e => growFrom step rounds e
    | none => return e

/-- An expression that grows to the right as long as a recognizer matches behind it. -/
def grow (start : Recognizer Expr) (step : Expr → Recognizer Expr) : Recognizer Expr := do
  growFrom step (← read).source.tokens.size (← start)

/-- A recognizer whose outcome for a place is kept. -/
def keep (rule : Rule) (p : Recognizer Expr) : Recognizer Expr := fun setting s =>
  let start := s.position
  match s.kept[(rule, start)]? with
  | some (some (e, position)) => .ok e { s with position }
  | some none => .error .mismatch s
  | none =>
    match p setting s with
    | .ok e s => .ok e { s with kept := s.kept.insert (rule, start) (some (e, s.position)) }
    | .error .mismatch s | .error .committed s =>
      .error .mismatch { s with kept := s.kept.insert (rule, start) none }
    | .error stop s => .error stop s

end Recognizer

end SmellScan.Console.Literal
