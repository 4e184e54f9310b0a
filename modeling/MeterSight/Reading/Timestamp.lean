/-!
# Timestamps

Moments of Unix time and their texts in RFC 3339.
-/
namespace MeterSight

/-- A moment of Unix time. In a leap second the nanoseconds go on beyond a full second. -/
structure Timestamp where
  seconds : Int
  nanoseconds : Nat
  deriving DecidableEq, Repr

namespace Timestamp

/-- Year, month and day of the day with a number, counted from 1970-01-01. Years are counted from
March within eras of 400 years. -/
def civil (day : Int) : Int × Nat × Nat :=
  let shifted := day + 719468
  let era := shifted / 146097
  let dayOfEra := (shifted % 146097).toNat
  let yearOfEra :=
    (dayOfEra - dayOfEra / 1460 + dayOfEra / 36524 - dayOfEra / 146096) / 365
  let dayOfYear := dayOfEra - (365 * yearOfEra + yearOfEra / 4 - yearOfEra / 100)
  let month := (5 * dayOfYear + 2) / 153
  let dayOfMonth := dayOfYear - (153 * month + 2) / 5 + 1
  let month := if month < 10 then month + 3 else month - 9
  (era * 400 + yearOfEra + (if month ≤ 2 then 1 else 0), month, dayOfMonth)

/-- A number with at least so many digits. -/
def padded (width n : Nat) : String :=
  let digits := toString n
  String.ofList (List.replicate (width - digits.length) '0') ++ digits

/-- A year with four digits, or with a sign outside of these. -/
def yearText (year : Int) : String :=
  if 0 ≤ year ∧ year ≤ 9999 then padded 4 year.toNat
  else (if year < 0 then "-" else "+") ++ padded 4 year.natAbs

/-- A fraction of a second with no, three, six or nine digits. -/
def fractionText (nanoseconds : Nat) : String :=
  if nanoseconds = 0 then ""
  else if nanoseconds % 1000000 = 0 then "." ++ padded 3 (nanoseconds / 1000000)
  else if nanoseconds % 1000 = 0 then "." ++ padded 6 (nanoseconds / 1000)
  else "." ++ padded 9 nanoseconds

/-- The moment in RFC 3339, before the name of the time zone. -/
def civilText (t : Timestamp) : String :=
  let (year, month, day) := civil (t.seconds / 86400)
  let second := (t.seconds % 86400).toNat
  yearText year ++ "-" ++ padded 2 month ++ "-" ++ padded 2 day ++ "T" ++
    padded 2 (second / 3600) ++ ":" ++ padded 2 (second / 60 % 60) ++ ":" ++
    padded 2 (second % 60 + t.nanoseconds / 1000000000) ++
    fractionText (t.nanoseconds % 1000000000)

/-- With the zone as an offset. -/
def offsetText (t : Timestamp) : String := t.civilText ++ "+00:00"

/-- With the zone as a letter. -/
def zuluText (t : Timestamp) : String := t.civilText ++ "Z"

end Timestamp
end MeterSight
