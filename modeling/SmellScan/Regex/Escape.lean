import SmellScan.Json.Parser
import SmellScan.Regex.Source
import SmellScan.Text.Quoted

/-!
# Escapes in patterns

What a backslash and the character behind it stand for: a character, by a letter or by its number or
name, a class of characters, a condition on the place, or a group that is referred to. The names of
characters are given from outside.
-/

namespace SmellScan.Regex

/-- A digit of base eight. -/
def isOctal (c : Char) : Bool :=
  '0' ≤ c && c ≤ '7'

/-- A digit of base sixteen. -/
def isHex (c : Char) : Bool :=
  (Json.hexValue? c).isSome

/-- The number spelled by digits in a base. -/
def numberIn (base : Nat) (digits : List Char) : Nat :=
  digits.foldl (fun n c => base * n + (Json.hexValue? c).getD 0) 0

/-- The character that a letter behind a backslash stands for, by its code point. -/
def letterEscape? : Char → Option Nat
  | 'a' => some 7
  | 'b' => some 8
  | 'f' => some 12
  | 'n' => some 10
  | 'r' => some 13
  | 't' => some 9
  | 'v' => some 11
  | '\\' => some 0x5C
  | _ => none

/-- The class that a letter behind a backslash stands for, and whether it is the others that are
meant. -/
def categoryEscape? : Char → Option SetItem
  | 'd' => some (.category .digit false)
  | 'D' => some (.category .digit true)
  | 's' => some (.category .blank false)
  | 'S' => some (.category .blank true)
  | 'w' => some (.category .word false)
  | 'W' => some (.category .word true)
  | _ => none

/-- The condition that a letter behind a backslash stands for. -/
def anchorEscape? : Char → Option Anchor
  | 'A' => some .textStart
  | 'b' => some .boundary
  | 'B' => some .noBoundary
  | 'Z' => some .textStop
  | _ => none

namespace Reader

/-- An escape is malformed, with what it has taken so far. -/
def badEscape {α : Type} (words : String) (taken : List Char) : Reader α :=
  fail s!"{words} {String.ofList taken}" taken.length

/-- The character that is given by so many digits of base sixteen behind a letter. -/
def hexEscape (letter : Char) (count : Nat) : Reader Nat := do
  let digits ← takeWhile isHex count
  let taken := '\\' :: letter :: digits
  if digits.length < count then badEscape "incomplete escape" taken
  else if 0x10FFFF < numberIn 16 digits then badEscape "bad escape" taken
  else return numberIn 16 digits

/-- The character that is given by its name in braces. -/
def namedEscape (namedChar? : String → Option Char) : Reader Nat := do
  if ← accept '{' then
    let name ← takeName '}' "character name"
    match namedChar? name with
    | some c => return c.toNat
    | none => fail s!"undefined character name {Text.quoted name}" (name.length + 4)
  else fail "missing \x7b" 0

/-- The character that is given by octal digits. -/
def octalEscape (digits : List Char) : Reader Nat := do
  if numberIn 8 digits ≤ 0o377 then return numberIn 8 digits
  else
    let taken := String.ofList ('\\' :: digits)
    fail s!"octal escape value {taken} outside of range 0-0o377" (digits.length + 1)

/-- The character that an escape stands for by number, by name or as itself. -/
def characterEscape (namedChar? : String → Option Char) (c : Char) : Reader Nat := do
  match c with
  | 'x' => hexEscape c 2
  | 'u' => hexEscape c 4
  | 'U' => hexEscape c 8
  | 'N' => namedEscape namedChar?
  | _ => if c.isAlphanum then badEscape "bad escape" ['\\', c] else return c.toNat

/-- The entry that an escape makes in a set of characters. -/
def setEscape (namedChar? : String → Option Char) (c : Char) : Reader SetItem := do
  match letterEscape? c, categoryEscape? c with
  | some n, _ => return .literal n
  | none, some item => return item
  | none, none =>
    if isOctal c then return .literal (← octalEscape (c :: (← takeWhile isOctal 2)))
    else return .literal (← characterEscape namedChar? c)

/-- A group that is referred to is no longer open, and stands before a look behind that holds the
reference. -/
def checkBehind (number : Nat) : Reader Unit := do
  let progress ← get
  match progress.behind with
  | none => return
  | some groups =>
    if (progress.widths[number]?.join).isNone then fail "cannot refer to an open group" 0
    else if groups ≤ number then
      fail "cannot refer to group defined in the same lookbehind subpattern" 0

/-- A reference to a group by its number. -/
def groupEscape (digits : List Char) : Reader Node := do
  let number := numberIn 10 digits
  match (← get).widths[number]? with
  | none => fail s!"invalid group reference {number}" digits.length
  | some none => fail "cannot refer to an open group" (digits.length + 1)
  | some (some _) =>
    checkBehind number
    return .backref number

/-- What an escape by number stands for: three octal digits are a character, and so is what begins
with a zero; one or two digits refer to a group. -/
def numberEscape (c : Char) : Reader Node := do
  if c = '0' then return .literal (numberIn 8 (← takeWhile isOctal 2))
  match ← takeWhile isDigit 1 with
  | [second] =>
    if isOctal c && isOctal second then
      match ← takeWhile isOctal 1 with
      | [third] => return .literal (← octalEscape [c, second, third])
      | _ => groupEscape [c, second]
    else groupEscape [c, second]
  | _ => groupEscape [c]

/-- The piece that an escape stands for. -/
def escape (namedChar? : String → Option Char) (c : Char) : Reader Node := do
  match anchorEscape? c, categoryEscape? c, letterEscape? c with
  | some anchor, _, _ => return .anchor anchor
  | none, some item, _ => return .set false [item]
  | none, none, some n => return .literal n
  | none, none, none =>
    if isDigit c then numberEscape c else return .literal (← characterEscape namedChar? c)

end Reader

end SmellScan.Regex
