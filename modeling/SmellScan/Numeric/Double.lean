/-!
# Double precision numbers

Binary floating point with 53 significant bits, in exact integer arithmetic. A finite number is a
sign and a whole number of *units*, the least positive number `2 ^ -1074`, so comparison is that of
integers. Every operation computes the exact result as a ratio of units and rounds it once, to the
nearest number, a tie going to the even neighbour.
-/

namespace SmellScan

/-- A double precision number. -/
inductive Double where
  /-- No number; it compares with nothing. -/
  | nan
  /-- Larger than every finite number, or smaller if negative. -/
  | infinite (negative : Bool)
  /-- A sign and a magnitude counted in units of `2 ^ -1074`. -/
  | finite (negative : Bool) (units : Nat)
  deriving DecidableEq, Repr

namespace Double

/-- How many units make one. -/
def unitsPerOne : Nat := Nat.pow 2 1074

/-- The magnitude, in units, from which on a number is infinite. -/
def limit : Nat := Nat.pow 2 (1074 + 1024)

/-- `num / den` to the nearest integer, a tie going to the even one. -/
def roundHalfEven (num den : Nat) : Nat :=
  let q := num / den
  let twice := 2 * (num % den)
  if twice < den then q else if den < twice then q + 1 else if q % 2 = 0 then q else q + 1

/-- `num / den` to the nearest integer of at most 53 significant bits. -/
def roundUnits (num den : Nat) : Nat :=
  let shift := (num / den).log2 - 52
  roundHalfEven num (den * Nat.pow 2 shift) * Nat.pow 2 shift

/-- The number nearest to `num / den` units. -/
def ofUnits (negative : Bool) (num den : Nat) : Double :=
  let units := roundUnits num den
  if units < limit then .finite negative units else .infinite negative

/-- The number nearest to `num / den`. -/
def ofRatio (num den : Nat) : Double :=
  ofUnits false (num * unitsPerOne) den

/-- The number nearest to an integer. -/
def ofInt (i : Int) : Double :=
  ofUnits (i < 0) (i.natAbs * unitsPerOne) 1

/-- Zero. -/
def zero : Double := .finite false 0

/-- One. -/
def one : Double := .finite false unitsPerOne

/-- The number nearest to `digits * 10 ^ exponent`, with a sign. Exponents far outside the range
are decided without forming the power. -/
def ofDecimal (negative : Bool) (digits : Nat) (exponent : Int) : Double :=
  let lead : Int := (Nat.toDigits 10 digits).length + exponent
  if digits = 0 || lead < -340 then .finite negative 0
  else if 320 < lead then .infinite negative
  else if exponent < 0 then ofUnits negative (digits * unitsPerOne) (Nat.pow 10 exponent.natAbs)
  else ofUnits negative (digits * unitsPerOne * Nat.pow 10 exponent.natAbs) 1

/-- A magnitude with its sign. -/
def signed (negative : Bool) (units : Nat) : Int :=
  if negative then -(units : Int) else units

/-- The order of numbers; nothing is below or above `nan`. -/
def lt : Double → Double → Bool
  | .nan, _ => false
  | _, .nan => false
  | .infinite a, .infinite b => a && !b
  | .infinite a, .finite .. => a
  | .finite .., .infinite b => !b
  | .finite a u, .finite b v => signed a u < signed b v

/-- The sum, rounded. Opposite numbers add up to a positive zero. -/
def add : Double → Double → Double
  | .nan, _ => .nan
  | _, .nan => .nan
  | .infinite a, .infinite b => if a = b then .infinite a else .nan
  | .infinite a, .finite .. => .infinite a
  | .finite .., .infinite b => .infinite b
  | .finite a u, .finite b v =>
    let sum := signed a u + signed b v
    if sum = 0 then .finite (a && b) 0 else ofUnits (sum < 0) sum.natAbs 1

/-- The number with the other sign. -/
def neg : Double → Double
  | .nan => .nan
  | .infinite a => .infinite !a
  | .finite a u => .finite (!a) u

/-- The difference, rounded. -/
def sub (x y : Double) : Double :=
  add x (neg y)

/-- The product, rounded. -/
def mul : Double → Double → Double
  | .nan, _ => .nan
  | _, .nan => .nan
  | .infinite a, .infinite b => .infinite (a != b)
  | .infinite a, .finite b v => if v = 0 then .nan else .infinite (a != b)
  | .finite a u, .infinite b => if u = 0 then .nan else .infinite (a != b)
  | .finite a u, .finite b v => ofUnits (a != b) (u * v) unitsPerOne

/-- The greatest integer not above a finite number. -/
def floor? : Double → Option Int
  | .finite a u => some (Int.fdiv (signed a u) unitsPerOne)
  | _ => none

/-- A finite number without its fraction. -/
def truncate? : Double → Option Int
  | .finite a u => some (Int.tdiv (signed a u) unitsPerOne)
  | _ => none

/-- The number nearest to `x` rounded to so many decimal places, a tie going to the even last
digit. -/
def roundPlaces (places : Nat) : Double → Double
  | .finite a u =>
    ofDecimal a (roundHalfEven (u * Nat.pow 10 places) unitsPerOne) (-(places : Int))
  | x => x

end Double

end SmellScan
