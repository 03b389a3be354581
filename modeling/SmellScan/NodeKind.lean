/-!
# Kinds of syntax nodes

The closed set of tags by which the analyses tell nodes apart.
-/

namespace SmellScan

/-- What a syntax node is to the analyses. -/
inductive NodeKind where
  | functionDeclaration
  | functionExpression
  | arrowFunction
  | classMethod
  | callExpression
  | other
  deriving DecidableEq, Repr

namespace NodeKind

/-- Every kind. -/
def all : List NodeKind :=
  [.functionDeclaration, .functionExpression, .arrowFunction, .classMethod, .callExpression, .other]

/-- The name of a kind in reports. -/
def name : NodeKind → String
  | .functionDeclaration => "function-declaration"
  | .functionExpression => "function-expression"
  | .arrowFunction => "arrow-function"
  | .classMethod => "class-method"
  | .callExpression => "call-expression"
  | .other => "other"

/-- The kind of a name. -/
def ofName? (s : String) : Option NodeKind :=
  all.find? (·.name == s)

/-- Opens a new closure, which is what nesting depth counts. -/
def opensClosure : NodeKind → Bool
  | .functionDeclaration | .functionExpression | .arrowFunction => true
  | _ => false

/-- Can be a near-copy of another block. -/
def isBlock : NodeKind → Bool
  | .functionDeclaration | .classMethod | .arrowFunction => true
  | _ => false

/-- Has a body of its own whose length counts, and carries its source text. -/
def isFunction : NodeKind → Bool
  | .functionDeclaration | .functionExpression | .arrowFunction | .classMethod => true
  | _ => false

end NodeKind

end SmellScan
