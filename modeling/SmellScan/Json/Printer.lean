import SmellScan.Json.Basic
import SmellScan.Numeric.Decimal

/-!
# JSON text

Two layouts. `compact` puts a value on one line in ASCII, a space behind each comma and colon.
`indented` puts every item and field on a line of its own, two spaces deeper than its container,
and leaves all characters but controls, quotes and backslashes as they are.
-/

namespace SmellScan.Json

/-- A digit of base sixteen, in lower case. -/
def hexDigit (n : Nat) : Char :=
  Nat.digitChar (n % 16)

/-- A code unit of sixteen bits as an escape. -/
def unitEscape (n : Nat) : List Char :=
  ['\\', 'u', hexDigit (n / 4096), hexDigit (n / 256), hexDigit (n / 16), hexDigit n]

/-- A character as one escape, or as two for a surrogate pair. -/
def charEscape (c : Char) : List Char :=
  let n := c.toNat
  if n < 0x10000 then unitEscape n
  else unitEscape (0xD800 + (n - 0x10000) / 0x400) ++ unitEscape (0xDC00 + (n - 0x10000) % 0x400)

/-- The escapes of one letter. -/
def shortEscape? (c : Char) : Option Char :=
  if c = '"' then some '"'
  else if c = '\\' then some '\\'
  else if c = '\n' then some 'n'
  else if c = '\r' then some 'r'
  else if c = '\t' then some 't'
  else if c = Char.ofNat 8 then some 'b'
  else if c = Char.ofNat 12 then some 'f'
  else none

/-- A character inside a string; `plain` says which characters stand for themselves. -/
def writeChar (plain : Char → Bool) (c : Char) : List Char :=
  match shortEscape? c with
  | some e => ['\\', e]
  | none => if plain c then [c] else charEscape c

/-- A string in quotes. -/
def writeString (plain : Char → Bool) (s : String) : List Char :=
  '"' :: (s.toList.flatMap (writeChar plain) ++ ['"'])

/-- The printable characters of ASCII. -/
def isAsciiGraphic (c : Char) : Bool :=
  0x20 ≤ c.toNat && c.toNat ≤ 0x7E

/-- Every character but the controls below the space. -/
def isNotControl (c : Char) : Bool :=
  0x20 ≤ c.toNat

/-- The decimal text of an integer. -/
def writeInt (i : Int) : List Char :=
  if i < 0 then '-' :: Nat.toDigits 10 i.natAbs else Nat.toDigits 10 i.natAbs

/-- Doubles in a line of the log: positional up to `1e16` and down to `1e-04`, exponents signed and
of two digits at least. -/
def compactFloat : FloatStyle :=
  ⟨-4, 15, true, 2, "Infinity", "NaN"⟩

/-- Doubles in a report: positional up to `1e16` and down to `1e-5`, exponents bare. What is no
finite number is null. -/
def indentedFloat : FloatStyle :=
  ⟨-5, 15, false, 1, "null", "null"⟩

/-- A double in a report. -/
def writeIndentedFloat : Double → List Char
  | .finite negative units => (indentedFloat.write (.finite negative units)).toList
  | _ => "null".toList

/-- Texts with a separator between neighbours. -/
def separated (sep : List Char) : List (List Char) → List Char
  | [] => []
  | [t] => t
  | t :: ts => t ++ sep ++ separated sep ts

mutual

/-- A value on one line. -/
def writeCompact : Json → List Char
  | .null => "null".toList
  | .bool b => if b then "true".toList else "false".toList
  | .int i => writeInt i
  | .float x => (compactFloat.write x).toList
  | .str s => writeString isAsciiGraphic s
  | .arr items => '[' :: (separated [',', ' '] (writeCompactItems items) ++ [']'])
  | .obj fields => '\x7b' :: (separated [',', ' '] (writeCompactFields fields) ++ ['\x7d'])

/-- Items on one line. -/
def writeCompactItems : List Json → List (List Char)
  | [] => []
  | j :: js => writeCompact j :: writeCompactItems js

/-- Fields on one line. -/
def writeCompactFields : List (String × Json) → List (List Char)
  | [] => []
  | (key, j) :: rest =>
    (writeString isAsciiGraphic key ++ ':' :: ' ' :: writeCompact j) :: writeCompactFields rest

end

/-- The start of a line at a depth. -/
def newline (depth : Nat) : List Char :=
  '\n' :: List.replicate (2 * depth) ' '

mutual

/-- A value over several lines; its own line is already begun at `depth`. -/
def writeIndented (depth : Nat) : Json → List Char
  | .null => "null".toList
  | .bool b => if b then "true".toList else "false".toList
  | .int i => writeInt i
  | .float x => writeIndentedFloat x
  | .str s => writeString isNotControl s
  | .arr [] => ['[', ']']
  | .arr items =>
    '[' :: (separated [','] (writeIndentedItems (depth + 1) items) ++ newline depth ++ [']'])
  | .obj [] => ['\x7b', '\x7d']
  | .obj fields =>
    '\x7b' ::
      (separated [','] (writeIndentedFields (depth + 1) fields) ++ newline depth ++ ['\x7d'])

/-- Items, each on a line of its own. -/
def writeIndentedItems (depth : Nat) : List Json → List (List Char)
  | [] => []
  | j :: js => (newline depth ++ writeIndented depth j) :: writeIndentedItems depth js

/-- Fields, each on a line of its own. -/
def writeIndentedFields (depth : Nat) : List (String × Json) → List (List Char)
  | [] => []
  | (key, j) :: rest =>
    (newline depth ++ writeString isNotControl key ++ ':' :: ' ' :: writeIndented depth j) ::
      writeIndentedFields depth rest

end

/-- The value on one line of ASCII. -/
def compact (j : Json) : String :=
  String.ofList (writeCompact j)

/-- The value over several lines. -/
def indented (j : Json) : String :=
  String.ofList (writeIndented 0 j)

end SmellScan.Json
