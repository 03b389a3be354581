import SmellScan.Console.Literal.Fault
import SmellScan.Json.Parser
import SmellScan.Text.CharacterName

/-!
# Escapes in texts

A backslash in a text begins an escape: a character by its number or by its name. Other characters
may stand behind a backslash too, and are taken as they are. Places are counted in a text of ASCII,
in which every character beyond it is written by its number.
-/

namespace SmellScan.Console.Literal

open Text

/-- A character by its number, as an escape of ten characters. -/
def numbered (c : Char) : List Char :=
  let digits := Nat.toDigits 16 c.toNat
  '\\' :: 'U' :: (List.replicate (8 - digits.length) '0' ++ digits)

/-- The text in ASCII. A backslash that is no escape, because the text ends or a character beyond
ASCII follows it, is written by its number too. -/
def inAscii : List Char → List Char
  | [] => []
  | ['\\'] => "\\u005c".toList
  | '\\' :: c :: cs =>
    if c.toNat < 0x80 then '\\' :: c :: inAscii cs
    else "\\u005c".toList ++ numbered c ++ inAscii cs
  | c :: cs => if c.toNat < 0x80 then c :: inAscii cs else numbered c ++ inAscii cs

/-- The number of digits that the number of a character has, by the letter behind the backslash. -/
def digitsOwed? (c : Char) : Option Nat :=
  if c == 'x' then some 2 else if c == 'u' then some 4 else if c == 'U' then some 8 else none

/-- The first fault in the escapes of a text of ASCII from a place on. -/
def escapeFault? : (place : Nat) → List Char → Option FormFault
  | place, '\\' :: c :: cs =>
    match digitsOwed? c with
    | some owed =>
      let digits := (cs.take owed).takeWhile fun c => (Json.hexValue? c).isSome
      let value := digits.foldl (fun n c => 16 * n + (Json.hexValue? c).getD 0) 0
      let last := place + 1 + digits.length
      if digits.length < owed then
        let form := String.ofList (c :: List.replicate owed 'X')
        some (.badEscape place last s!"truncated \\{form} escape")
      else if 0x10FFFF < value then some (.badEscape place last "illegal Unicode character")
      else escapeFault? (place + 2) cs
    | none =>
      if c == 'N' then
        let named := cs.head? == some '{'
        let word := cs.tail.takeWhile (· != '}')
        let closed := named && (cs.tail.drop word.length).head?.isSome
        if closed && !word.isEmpty then
          if isCharacterName (String.ofList word) then escapeFault? (place + 2) cs
          else some (.badEscape place (place + 3 + word.length) "unknown Unicode character name")
        else
          let length := if named then word.length + 1 else 0
          some (.badEscape place (place + 1 + length) "malformed \\N character escape")
      else escapeFault? (place + 2) cs
  | place, _ :: cs => escapeFault? (place + 1) cs
  | _, [] => none

/-- The escapes in a text of characters are well formed. -/
def checkEscapes (cs : List Char) : Except FormFault Unit :=
  match escapeFault? 0 (inAscii cs) with
  | some fault => .error fault
  | none => .ok ()

/-- The first fault in the escapes of a text of bytes from a place on. Only two digits of a number
matter. -/
def byteEscapeFault? : (place : Nat) → List Char → Option FormFault
  | place, '\\' :: c :: cs =>
    if c == 'x' && !((cs.take 2).length == 2 && (cs.take 2).all (Json.hexValue? · |>.isSome)) then
      some (.badByteEscape place)
    else byteEscapeFault? (place + 2) cs
  | place, _ :: cs => byteEscapeFault? (place + 1) cs
  | _, [] => none

/-- A text of bytes is well formed. -/
def checkBytes (raw : Bool) (cs : List Char) : Except FormFault Unit :=
  if cs.any (0x80 ≤ ·.toNat) then .error .notAscii
  else
    match raw, byteEscapeFault? 0 cs with
    | false, some fault => .error fault
    | _, _ => .ok ()

end SmellScan.Console.Literal
