/-!
# Points in time

A point in time of the civil calendar, in universal time, and its two written forms.
-/

namespace SmellScan

/-- A point in universal time. -/
structure Timestamp where
  year : Nat
  month : Nat
  day : Nat
  hour : Nat := 0
  minute : Nat := 0
  second : Nat := 0
  microsecond : Nat := 0
  deriving DecidableEq, Repr

namespace Timestamp

/-- A number with at least so many digits. -/
def padded (width n : Nat) : String :=
  let digits := Nat.toDigits 10 n
  String.ofList (List.replicate (width - digits.length) '0' ++ digits)

/-- Year, month and day with hyphens between them, the year with at least `width` digits. -/
def date (t : Timestamp) (width : Nat) : String :=
  padded width t.year ++ "-" ++ padded 2 t.month ++ "-" ++ padded 2 t.day

/-- Date and time to the second, then the microseconds if there are any, and the zone. -/
def iso (t : Timestamp) : String :=
  let fraction := if t.microsecond = 0 then "" else "." ++ padded 6 t.microsecond
  t.date 4 ++ "T" ++ padded 2 t.hour ++ ":" ++ padded 2 t.minute ++ ":" ++ padded 2 t.second ++
    fraction ++ "+00:00"

end Timestamp

end SmellScan
