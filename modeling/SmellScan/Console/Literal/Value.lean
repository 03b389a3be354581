import SmellScan.Console.Literal.Expr

/-!
# Values of literals

An expression is a literal if it is built from constants, tuples, sets and dictionaries. Elements
and keys must not be able to change, so that a set or a dictionary can be neither. A complex number
is written as a sum.
-/

namespace SmellScan.Console.Literal

/-- A value as far as it matters here. -/
inductive Value where
  /-- A number, a text or a constant. -/
  | plain
  | tuple (elements : List Value)
  | set
  | dict

mutual

/-- The kind of the first part of a value that can change. -/
def Value.mutable? : Value → Option String
  | .plain => none
  | .tuple elements => Value.mutableAmong? elements
  | .set => some "set"
  | .dict => some "dict"

/-- The kind of the first part of several values that can change. -/
def Value.mutableAmong? : List Value → Option String
  | [] => none
  | v :: vs =>
    match v.mutable? with
    | some kind => some kind
    | none => Value.mutableAmong? vs

end

/-- A value may be an element of a set or a key. -/
def Value.checkFixed (v : Value) : Except ValueFault Unit :=
  match v.mutable? with
  | some kind => .error (.unhashable kind)
  | none => .ok ()

/-- The number that an expression is. -/
def number : Expr → Except ValueFault Number
  | .number n => .ok n
  | _ => .error .notConstant

/-- The number that an expression with a sign or without is. -/
def signedNumber : Expr → Except ValueFault Number
  | .signed e => number e
  | e => number e

/-- The least integer that is nearer to the first power of two beyond the doubles than to a
double. -/
def realLimit : Nat := Nat.pow 2 1024 - Nat.pow 2 970

/-- The sum of a real and an imaginary number. -/
def complexSum (left right : Expr) : Except ValueFault Value := do
  let a ← signedNumber left
  let b ← number right
  match a, b with
  | .whole n, .imaginary => if realLimit ≤ n then throw .tooGreat else return .plain
  | .real, .imaginary => return .plain
  | _, _ => throw .notConstant

mutual

/-- The value of an expression. -/
def value : Expr → Except ValueFault Value
  | .number _ | .text _ | .constant _ => .ok .plain
  | .tuple elements => (values elements).map .tuple
  | .set elements => (checkElements elements).map fun _ => .set
  | .dict entries => (checkEntries entries).map fun _ => .dict
  | .call (.name "set") [] => .ok .set
  | .sum left right => complexSum left right
  | e => (signedNumber e).map fun _ => .plain

/-- The values of several expressions. -/
def values : List Expr → Except ValueFault (List Value)
  | [] => .ok []
  | e :: es => do
    let v ← value e
    return v :: (← values es)

/-- The elements of a set have values that cannot change. -/
def checkElements : List Expr → Except ValueFault Unit
  | [] => .ok ()
  | e :: es => do
    (← value e).checkFixed
    checkElements es

/-- The entries of a dictionary have values, and their keys cannot change. -/
def checkEntries : List Expr → Except ValueFault Unit
  | [] => .ok ()
  | .entry key e :: es => do
    let k ← value key
    let _ ← value e
    k.checkFixed
    checkEntries es
  | _ :: _ => .error .unpacked

end

/-- The greatest height of an expression that can be worked with. -/
def maxHeight : Nat := 2880

/-- An expression is a literal. -/
def checkValue (e : Expr) : Except ValueFault Unit :=
  if maxHeight < e.height then .error .tooHigh
  else (value e).map fun _ => ()

end SmellScan.Console.Literal
