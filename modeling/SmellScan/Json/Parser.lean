import SmellScan.Json.Basic
import SmellScan.Numeric.Digits

/-!
# Reading JSON

A reader takes the rest of the text and gives a value and what follows it. Strings are read as
code units first, so that a surrogate pair becomes one character.
-/

namespace SmellScan.Json

/-- The blanks that may stand between tokens. -/
def isSpace (c : Char) : Bool :=
  c == ' ' || c == '\n' || c == '\r' || c == '\t'

/-- The text behind the blanks in front of it. -/
def skipSpace (cs : List Char) : List Char :=
  cs.dropWhile isSpace

/-- The value of a digit of base sixteen. -/
def hexValue? (c : Char) : Option Nat :=
  let n := c.toNat
  if 0x30 ≤ n && n ≤ 0x39 then some (n - 0x30)
  else if 0x61 ≤ n && n ≤ 0x66 then some (n - 0x61 + 10)
  else if 0x41 ≤ n && n ≤ 0x46 then some (n - 0x41 + 10)
  else none

/-- The character meant by an escape of one letter. -/
def unescape? (c : Char) : Option Nat :=
  match c with
  | '"' => some 0x22
  | '\\' => some 0x5C
  | '/' => some 0x2F
  | 'b' => some 8
  | 'f' => some 12
  | 'n' => some 10
  | 'r' => some 13
  | 't' => some 9
  | _ => none

/-- Where a string stands between two characters. -/
inductive StringState where
  /-- Outside escapes. -/
  | plain
  /-- Behind a backslash. -/
  | escape
  /-- In an escape by number: digits owed, value so far. -/
  | number (owed value : Nat)

/-- A unit in front of those that follow. -/
def consUnit (u : Nat) : Option (List Nat × List Char) → Option (List Nat × List Char)
  | some (us, rest) => some (u :: us, rest)
  | none => none

/-- The units up to the closing quote, and the text behind it. Controls must be escaped. -/
def readUnits : StringState → List Char → Option (List Nat × List Char)
  | _, [] => none
  | .plain, c :: cs =>
    if c = '"' then some ([], cs)
    else if c = '\\' then readUnits .escape cs
    else if c.toNat < 0x20 then none
    else consUnit c.toNat (readUnits .plain cs)
  | .escape, c :: cs =>
    if c = 'u' then readUnits (.number 4 0) cs
    else
      match unescape? c with
      | some u => consUnit u (readUnits .plain cs)
      | none => none
  | .number owed value, c :: cs =>
    match hexValue? c with
    | none => none
    | some d =>
      if owed ≤ 1 then consUnit (16 * value + d) (readUnits .plain cs)
      else readUnits (.number (owed - 1) (16 * value + d)) cs

/-- The characters spelled by units: a high and a low surrogate in a row are one character, and a
surrogate on its own is a replacement character. -/
def joinSurrogates : List Nat → List Char
  | [] => []
  | [u] => [if 0xD800 ≤ u && u ≤ 0xDFFF then Char.ofNat 0xFFFD else Char.ofNat u]
  | u :: v :: us =>
    if 0xD800 ≤ u && u ≤ 0xDBFF && 0xDC00 ≤ v && v ≤ 0xDFFF then
      Char.ofNat (0x10000 + (u - 0xD800) * 0x400 + (v - 0xDC00)) :: joinSurrogates us
    else if 0xD800 ≤ u && u ≤ 0xDFFF then Char.ofNat 0xFFFD :: joinSurrogates (v :: us)
    else Char.ofNat u :: joinSurrogates (v :: us)

/-- A string, its opening quote already read. -/
def readString (cs : List Char) : Option (String × List Char) :=
  (readUnits .plain cs).map fun (us, rest) => (String.ofList (joinSurrogates us), rest)

/-- Whether an exponent is negative, and the text behind its sign, if it has one. -/
def readSign : List Char → Bool × List Char
  | '-' :: rest => (true, rest)
  | '+' :: rest => (false, rest)
  | rest => (false, rest)

/-- The exponent part of a number, if there is one. -/
def readExponent (cs : List Char) : Option (Int × List Char) :=
  match cs with
  | e :: rest =>
    if e = 'e' || e = 'E' then
      let (negative, rest) := readSign rest
      let digits := rest.takeWhile isDigit
      if digits.isEmpty then none
      else
        let n : Int := digitsValue digits
        some (if negative then -n else n, rest.dropWhile isDigit)
    else none
  | [] => none

/-- The fraction part of a number, if there is one. -/
def readFraction (cs : List Char) : Option (List Char × List Char) :=
  match cs with
  | '.' :: rest =>
    let digits := rest.takeWhile isDigit
    if digits.isEmpty then none else some (digits, rest.dropWhile isDigit)
  | _ => none

/-- Digits that can stand in front of the point: some, with no zero before another digit. -/
def isWhole : List Char → Bool
  | [] => false
  | c :: cs => c != '0' || cs.isEmpty

/-- A number without its sign. One with a fraction or an exponent is a double. -/
def readMagnitude (negative : Bool) (cs : List Char) : Option (Json × List Char) :=
  let whole := cs.takeWhile isDigit
  let rest := cs.dropWhile isDigit
  if !isWhole whole then none
  else
    match readFraction rest with
    | some (fraction, rest) =>
      let (power, rest) := (readExponent rest).getD (0, rest)
      some (.float (Double.ofDecimal negative (digitsValue (whole ++ fraction))
        (power - fraction.length)), rest)
    | none =>
      match readExponent rest with
      | some (power, rest) =>
        some (.float (Double.ofDecimal negative (digitsValue whole) power), rest)
      | none =>
        let n : Int := digitsValue whole
        some (.int (if negative then -n else n), rest)

/-- A number. -/
def readNumber (cs : List Char) : Option (Json × List Char) :=
  match cs with
  | '-' :: rest => readMagnitude true rest
  | rest => readMagnitude false rest

/-- The text behind a word that must come next. -/
def expect (word cs : List Char) : Option (List Char) :=
  if word.isPrefixOf cs then some (cs.drop word.length) else none

mutual

/-- A value. Fuel bounds the tokens that are read. -/
def readValue : Nat → List Char → Option (Json × List Char)
  | 0, _ => none
  | fuel + 1, cs =>
    match skipSpace cs with
    | [] => none
    | '"' :: rest => (readString rest).map fun (s, rest) => (.str s, rest)
    | '[' :: rest =>
      match skipSpace rest with
      | ']' :: rest => some (.arr [], rest)
      | rest => (readItems fuel rest).map fun (items, rest) => (.arr items, rest)
    | '\x7b' :: rest =>
      match skipSpace rest with
      | '\x7d' :: rest => some (.obj [], rest)
      | rest => (readFields fuel rest).map fun (fields, rest) => (.obj fields, rest)
    | 'n' :: rest => (expect ['u', 'l', 'l'] rest).map fun rest => (.null, rest)
    | 't' :: rest => (expect ['r', 'u', 'e'] rest).map fun rest => (.bool true, rest)
    | 'f' :: rest => (expect ['a', 'l', 's', 'e'] rest).map fun rest => (.bool false, rest)
    | cs => readNumber cs

/-- The items of an array up to its closing bracket. -/
def readItems : Nat → List Char → Option (List Json × List Char)
  | 0, _ => none
  | fuel + 1, cs =>
    match readValue fuel cs with
    | none => none
    | some (j, rest) =>
      match skipSpace rest with
      | ',' :: rest => (readItems fuel rest).map fun (js, rest) => (j :: js, rest)
      | ']' :: rest => some ([j], rest)
      | _ => none

/-- The fields of an object up to its closing brace. -/
def readFields : Nat → List Char → Option (List (String × Json) × List Char)
  | 0, _ => none
  | fuel + 1, cs =>
    match skipSpace cs with
    | '"' :: rest =>
      match readString rest with
      | none => none
      | some (key, rest) =>
        match skipSpace rest with
        | ':' :: rest =>
          match readValue fuel rest with
          | none => none
          | some (j, rest) =>
            match skipSpace rest with
            | ',' :: rest =>
              (readFields fuel rest).map fun (fields, rest) => ((key, j) :: fields, rest)
            | '\x7d' :: rest => some ([(key, j)], rest)
            | _ => none
        | _ => none
    | _ => none

end

/-- The value that a text spells, with nothing but blanks around it. Each token takes at least one
character, so the length of the text bounds the reading. -/
def parseChars (cs : List Char) : Option Json :=
  match readValue (2 * cs.length + 1) cs with
  | some (j, rest) => if (skipSpace rest).isEmpty then some j else none
  | none => none

/-- `parseChars` on strings. -/
def parse (s : String) : Option Json :=
  parseChars s.toList

end SmellScan.Json
