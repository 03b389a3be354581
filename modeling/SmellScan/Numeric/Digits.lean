/-!
# Runs of digits

Decimal digits of ASCII and the number that a run of them spells.
-/

namespace SmellScan

/-- A decimal digit of ASCII. -/
def isDigit (c : Char) : Bool :=
  '0' ≤ c && c ≤ '9'

/-- The number spelled by digits. -/
def digitsValue (cs : List Char) : Nat :=
  cs.foldl (fun n c => 10 * n + (c.toNat - 0x30)) 0

end SmellScan
