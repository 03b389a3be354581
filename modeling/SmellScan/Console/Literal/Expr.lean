import SmellScan.Console.Literal.Token

/-!
# Expressions

What a literal is written as. Expressions that can be values keep what they are made of in full; of
the others it is known what they are called and what stands in them.
-/

namespace SmellScan.Console.Literal

/-- An expression, or a part of one. -/
inductive Expr where
  | number (n : Number)
  /-- A text of characters or of bytes. -/
  | text (bytes : Bool)
  /-- A constant with a name, or the three points. -/
  | constant (name : String)
  | name (s : String)
  | tuple (elements : List Expr)
  | set (elements : List Expr)
  | dict (entries : List Expr)
  /-- An entry of a dictionary. -/
  | entry (key value : Expr)
  /-- A dictionary that is unpacked in another, or among arguments. -/
  | unpacked (e : Expr)
  /-- An argument with a name. -/
  | argument (value : Expr)
  /-- A call, with its arguments. -/
  | call (function : Expr) (arguments : List Expr)
  /-- An expression behind a plus or minus sign. -/
  | signed (e : Expr)
  /-- A sum or a difference. -/
  | sum (left right : Expr)
  /-- Another operation. -/
  | operation (operands : List Expr)
  /-- A comparison. It may ask first whether the left side is an element of what follows. -/
  | comparison (membership : Bool) (left : Expr) (others : List Expr)
  /-- An expression behind a star. -/
  | starred (e : Expr)
  | attribute (e : Expr)
  /-- An expression of another kind. -/
  | other (kind : String) (parts : List Expr)
  deriving Inhabited

namespace Expr

/-- What an expression is called in a fault. -/
def kind : Expr → String
  | .number _ | .text _ => "literal"
  | .constant word => word
  | .name _ => "name"
  | .tuple _ => "tuple"
  | .set _ => "set display"
  | .dict _ => "dict literal"
  | .call _ _ => "function call"
  | .comparison _ _ _ => "comparison"
  | .starred _ => "starred"
  | .attribute _ => "attribute"
  | .other kind _ => kind
  | .signed _ | .sum _ _ | .operation _ => "expression"
  | .entry _ _ | .unpacked _ | .argument _ => "expression"

/-- The name of a function that was once called without brackets. -/
def bareCall? : Expr → Option String
  | .name s => if s == "print" || s == "exec" then some s else none
  | _ => none

/-- The arguments of a call. -/
def callArguments : Expr → List Expr
  | .call _ arguments => arguments
  | _ => []

/-- The arguments of a call that have neither a name nor two stars. -/
def unnamedArguments (e : Expr) : List Expr :=
  e.callArguments.filter fun
    | .argument _ | .unpacked _ => false
    | _ => true

/-- An argument of a call has two stars. -/
def hasUnpackedArgument (e : Expr) : Bool :=
  e.callArguments.any fun
    | .unpacked _ => true
    | _ => false

mutual

/-- The first part of what a loop runs over that cannot be assigned to. In `x in y` it is `x` that
the loop runs over. -/
def badTarget? : Expr → Option Expr
  | .name _ | .attribute _ => none
  | .tuple elements => badTargetAmong? elements
  | .starred e => badTarget? e
  | .comparison membership left _ => if membership then badTarget? left else none
  | e => some e

/-- The first part of a list that cannot be assigned to. -/
def badTargetAmong? : List Expr → Option Expr
  | [] => none
  | e :: es =>
    match badTarget? e with
    | some bad => some bad
    | none => badTargetAmong? es

end

mutual

/-- How deeply the parts of an expression are nested. -/
def height : Expr → Nat
  | .number _ | .text _ | .constant _ | .name _ => 1
  | .tuple es | .set es | .dict es | .operation es | .other _ es => heights es + 1
  | .entry key value => max (height key) (height value)
  | .unpacked e | .argument e => height e
  | .signed e | .starred e | .attribute e => height e + 1
  | .call e es | .comparison _ e es => max (height e) (heights es) + 1
  | .sum left right => max (height left) (height right) + 1

/-- How deeply the expressions of a list are nested. -/
def heights : List Expr → Nat
  | [] => 0
  | e :: es => max (height e) (heights es)

end

end Expr

end SmellScan.Console.Literal
