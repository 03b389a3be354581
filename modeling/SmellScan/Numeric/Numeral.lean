import SmellScan.Numeric.Digits
import SmellScan.Numeric.Double
import SmellScan.Text.Blank
import SmellScan.Text.DecimalDigit

/-!
# Numbers as users write them

Integers and decimal numbers in free text: blanks around them do not count, digits may be those of
any script, and single underscores may stand between digits. An integer has a bounded number of
digits, so that reading one takes a bounded time.
-/

namespace SmellScan.Numeral

open Text

/-- A digit of any script as one of ASCII; other characters as they are. -/
def plainDigit (c : Char) : Char :=
  match decimalDigit? c with
  | some d => Char.ofNat (0x30 + d)
  | none => c

/-- The text without the underscores between digits; none if an underscore stands elsewhere. -/
def dropUnderscores : (afterDigit : Bool) → List Char → Option (List Char)
  | _, [] => some []
  | afterDigit, '_' :: c :: cs =>
    if afterDigit && isDigit c then (dropUnderscores true cs).map (c :: ·) else none
  | _, c :: cs =>
    if c == '_' then none else (dropUnderscores (isDigit c) cs).map (c :: ·)

/-- A blank that may stand around a number. The information separators may not. -/
def isMargin (c : Char) : Bool :=
  isBlank c && !(0x1C ≤ c.toNat && c.toNat ≤ 0x1F)

/-- The text without the blanks around a number. -/
def trimMargins (cs : List Char) : List Char :=
  ((cs.dropWhile isMargin).reverse.dropWhile isMargin).reverse

/-- The text of a number without blanks around it, in digits of ASCII, without underscores. -/
def normalize? (s : String) : Option (List Char) :=
  dropUnderscores false ((trimMargins s.toList).map plainDigit)

/-- The greatest number of digits of an integer, zeros in front included. -/
def maxDigits : Nat := 4300

/-- A sign, if there is one, and what follows it. -/
def readSign : List Char → Bool × List Char
  | '-' :: cs => (true, cs)
  | '+' :: cs => (false, cs)
  | cs => (false, cs)

/-- The integer that a text spells. -/
def int? (s : String) : Option Int :=
  match normalize? s with
  | none => none
  | some cs =>
    let (negative, digits) := readSign cs
    if digits.isEmpty || !digits.all isDigit || maxDigits < digits.length then none
    else
      let n : Int := digitsValue digits
      some (if negative then -n else n)

/-- The exponent of a number: nothing at all, or a mark, a sign if there is one, and digits. -/
def exponent? : List Char → Option Int
  | [] => some 0
  | e :: cs =>
    let (negative, digits) := readSign cs
    if (e == 'e' || e == 'E') && !digits.isEmpty && digits.all isDigit then
      let n : Int := digitsValue digits
      some (if negative then -n else n)
    else none

/-- A decimal number without its sign: digits with a point among, before or behind them, and an
exponent. -/
def magnitude? (negative : Bool) (cs : List Char) : Option Double :=
  let whole := cs.takeWhile isDigit
  let rest := cs.dropWhile isDigit
  let (fraction, rest) := match rest with
    | '.' :: rest => (rest.takeWhile isDigit, rest.dropWhile isDigit)
    | rest => ([], rest)
  if whole.isEmpty && fraction.isEmpty then none
  else
    (exponent? rest).map fun power =>
      .ofDecimal negative (digitsValue (whole ++ fraction)) (power - fraction.length)

/-- The double that a text spells; infinity and what is no number have names. -/
def double? (s : String) : Option Double :=
  match normalize? s with
  | none => none
  | some cs =>
    let (negative, body) := readSign cs
    let word := String.ofList (body.map Char.toLower)
    if word == "inf" || word == "infinity" then some (.infinite negative)
    else if word == "nan" then some .nan
    else magnitude? negative body

end SmellScan.Numeral
