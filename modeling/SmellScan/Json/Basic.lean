import SmellScan.Numeric.Double

/-!
# JSON values

Objects keep the order of their fields. Integers and doubles are different values, since an
integer has any size.
-/

namespace SmellScan

/-- A JSON value. -/
inductive Json where
  | null
  | bool (b : Bool)
  | int (i : Int)
  | float (x : Double)
  | str (s : String)
  | arr (items : List Json)
  | obj (fields : List (String × Json))
  deriving Repr

namespace Json

/-- The value of a field; of a repeated field, the last. -/
def get? (key : String) : Json → Option Json
  | .obj fields => (fields.reverse.find? (·.1 == key)).map (·.2)
  | _ => none

/-- The value of a field that is present and not null. -/
def given? (key : String) (j : Json) : Option Json :=
  match j.get? key with
  | some .null => none
  | other => other

/-- The text of a string. -/
def str? : Json → Option String
  | .str s => some s
  | _ => none

/-- The value of an integer. -/
def int? : Json → Option Int
  | .int i => some i
  | _ => none

/-- The value of a number. -/
def number? : Json → Option Double
  | .int i => some (Double.ofInt i)
  | .float x => some x
  | _ => none

/-- The value of a truth value. -/
def bool? : Json → Option Bool
  | .bool b => some b
  | _ => none

/-- The items of an array. -/
def items? : Json → Option (List Json)
  | .arr items => some items
  | _ => none

/-- The fields of an object. -/
def fields? : Json → Option (List (String × Json))
  | .obj fields => some fields
  | _ => none

/-- A string or null. -/
def ofStr? : Option String → Json
  | none => .null
  | some s => .str s

/-- An integer or null. -/
def ofInt? : Option Int → Json
  | none => .null
  | some i => .int i

end Json

end SmellScan
