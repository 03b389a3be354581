/-!
# UTF-8 with replacement

Encoding of characters as bytes, and decoding that never fails: each longest run of bytes that
begins a character but cannot complete one reads as a single replacement character.
-/

namespace SmellScan.Text

/-- The bytes of a text. -/
def encodeUtf8 (cs : List Char) : List UInt8 :=
  cs.flatMap String.utf8EncodeChar

/-- Stands for bytes that are no character. -/
def replacement : Char :=
  Char.ofNat 0xFFFD

/-- What the bytes read so far leave open. -/
inductive Pending where
  /-- Between characters. -/
  | clear
  /-- Inside a character: its bits so far, how many bytes are owed, and the least and greatest
  value of the next. -/
  | owing (bits owed least greatest : Nat)
  deriving DecidableEq, Repr

/-- The effect of a byte between characters. -/
def beginByte (b : Nat) : List Char × Pending :=
  if b < 0x80 then ([Char.ofNat b], .clear)
  else if 0xC2 ≤ b && b ≤ 0xDF then ([], .owing (b - 0xC0) 1 0x80 0xBF)
  else if b == 0xE0 then ([], .owing 0 2 0xA0 0xBF)
  else if b == 0xED then ([], .owing 0xD 2 0x80 0x9F)
  else if 0xE1 ≤ b && b ≤ 0xEF then ([], .owing (b - 0xE0) 2 0x80 0xBF)
  else if b == 0xF0 then ([], .owing 0 3 0x90 0xBF)
  else if 0xF1 ≤ b && b ≤ 0xF3 then ([], .owing (b - 0xF0) 3 0x80 0xBF)
  else if b == 0xF4 then ([], .owing 4 3 0x80 0x8F)
  else ([replacement], .clear)

/-- The effect of one byte: the characters it completes and what it leaves open. -/
def stepByte (b : Nat) : Pending → List Char × Pending
  | .clear => beginByte b
  | .owing bits owed least greatest =>
    if least ≤ b && b ≤ greatest then
      let bits' := bits * 64 + (b - 0x80)
      if owed ≤ 1 then ([Char.ofNat bits'], .clear) else ([], .owing bits' (owed - 1) 0x80 0xBF)
    else
      let (cs, next) := beginByte b
      (replacement :: cs, next)

/-- Decoding from a given point inside or between characters. -/
def decodeFrom : Pending → List UInt8 → List Char
  | .clear, [] => []
  | .owing .., [] => [replacement]
  | p, b :: bs =>
    let (cs, next) := stepByte b.toNat p
    cs ++ decodeFrom next bs

/-- The text that the bytes spell, with replacement characters for what is no character. -/
def decodeUtf8 (bs : List UInt8) : List Char :=
  decodeFrom .clear bs

/-- The part of a list from position `start` up to `stop`. Positions below zero count from the
end, and all are held within the list. -/
def slice {α : Type} (xs : List α) (start stop : Int) : List α :=
  let size : Int := xs.length
  let place (i : Int) : Nat := (if i < 0 then max (i + size) 0 else min i size).toNat
  (xs.take (place stop)).drop (place start)

end SmellScan.Text
