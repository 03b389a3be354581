import SmellScan.Numeric.Double

/-!
# Decimal text of numbers

Two ways of writing a double: `Decimal.shortest` picks the fewest digits that read back as the same
number and, of those, the nearest; `fixed` writes a given number of places. A `FloatStyle` says how
the shortest digits are laid out, with or without an exponent.
-/

namespace SmellScan

/-- The number `digits * 10 ^ exponent`. -/
structure Decimal where
  digits : Nat
  exponent : Int
  deriving DecidableEq, Repr

namespace Decimal

/-- The power of ten of the leading digit of a magnitude above zero. Scaled by `10 ^ 400` every
such magnitude is at least one, so the digits of its integer part tell. -/
def leadingExponent (units : Nat) : Int :=
  (Nat.toDigits 10 (units * Nat.pow 10 400 / Double.unitsPerOne)).length - 401

/-- A magnitude over `10 ^ exponent`, as a ratio of natural numbers. -/
def scaled (units : Nat) (exponent : Int) : Nat × Nat :=
  if exponent < 0 then (units * Nat.pow 10 exponent.natAbs, Double.unitsPerOne)
  else (units, Double.unitsPerOne * Nat.pow 10 exponent.natAbs)

/-- A decimal reads back as the magnitude. -/
def readsAs (units : Nat) (d : Decimal) : Bool :=
  Double.ofDecimal false d.digits d.exponent == .finite false units

/-- The decimal of `count` digits that reads back as the magnitude and is nearest to it, if one
reads back at all. Only the two neighbours on that decimal grid can. -/
def ofLength? (units : Nat) (lead : Int) (count : Nat) : Option Decimal :=
  let exponent := lead - (count - 1 : Nat)
  let (num, den) := scaled units exponent
  let below : Decimal := ⟨num / den, exponent⟩
  let above : Decimal := ⟨num / den + 1, exponent⟩
  let nearest : Decimal := ⟨Double.roundHalfEven num den, exponent⟩
  match readsAs units below, readsAs units above with
  | true, true => some nearest
  | true, false => some below
  | false, true => some above
  | false, false => none

/-- The shortest decimal that reads back as the magnitude. Seventeen digits always suffice. -/
def shortest (units : Nat) : Decimal :=
  if units = 0 then ⟨0, 0⟩
  else
    let lead := leadingExponent units
    ((List.range 17).findSome? fun i => ofLength? units lead (i + 1)).getD ⟨0, 0⟩

/-- The digits without trailing zeros; zero has one digit. -/
def significant (d : Decimal) : List Char :=
  match ((Nat.toDigits 10 d.digits).reverse.dropWhile (· == '0')).reverse with
  | [] => ['0']
  | cs => cs

end Decimal

/-- Where positional notation ends and how an exponent is written. -/
structure FloatStyle where
  /-- The least power of ten of the leading digit written positionally. -/
  leastPositional : Int
  /-- The greatest. -/
  greatestPositional : Int
  /-- Whether an exponent that is not negative has a plus sign. -/
  plusSign : Bool
  /-- The least number of digits of an exponent. -/
  exponentWidth : Nat
  /-- The text of infinity. -/
  infinity : String
  /-- The text of `nan`. -/
  notANumber : String

namespace FloatStyle

/-- Digits with the point behind power `lead`, and at least one digit on each side of it. -/
def positional (cs : List Char) (lead : Int) : List Char :=
  if lead < 0 then
    '0' :: '.' :: (List.replicate (lead.natAbs - 1) '0' ++ cs)
  else
    let whole := lead.natAbs + 1
    let fraction := cs.drop whole
    cs.take whole ++ List.replicate (whole - cs.length) '0' ++
      '.' :: (if fraction.isEmpty then ['0'] else fraction)

/-- Digits with the point behind the first, then the exponent. -/
def scientific (style : FloatStyle) (cs : List Char) (lead : Int) : List Char :=
  let power := Nat.toDigits 10 lead.natAbs
  let sign := if lead < 0 then ['-'] else if style.plusSign then ['+'] else []
  let mantissa := match cs with
    | c :: d :: rest => c :: '.' :: d :: rest
    | short => short
  mantissa ++ 'e' :: (sign ++ List.replicate (style.exponentWidth - power.length) '0' ++ power)

/-- The text of a number: the fewest digits that read back. -/
def write (style : FloatStyle) : Double → String
  | .nan => style.notANumber
  | .infinite negative => (if negative then "-" else "") ++ style.infinity
  | .finite negative units =>
    let d := Decimal.shortest units
    let cs := d.significant
    let lead := if units = 0 then 0 else (Nat.toDigits 10 d.digits).length - 1 + d.exponent
    let body :=
      if style.leastPositional ≤ lead && lead ≤ style.greatestPositional then positional cs lead
      else style.scientific cs lead
    String.ofList (if negative then '-' :: body else body)

end FloatStyle

/-- A number with exactly `places` decimal places, the exact value rounded half to even. -/
def Double.fixed (places : Nat) : Double → String
  | .nan => "nan"
  | .infinite negative => (if negative then "-" else "") ++ "inf"
  | .finite negative units =>
    let scaledUp := Double.roundHalfEven (units * Nat.pow 10 places) Double.unitsPerOne
    let cs := Nat.toDigits 10 scaledUp
    let padded := List.replicate (places + 1 - cs.length) '0' ++ cs
    let whole := padded.take (padded.length - places)
    let fraction := padded.drop (padded.length - places)
    let body := if places = 0 then whole else whole ++ '.' :: fraction
    String.ofList (if negative then '-' :: body else body)

end SmellScan
