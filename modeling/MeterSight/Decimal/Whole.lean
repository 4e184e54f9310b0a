import MeterSight.Text.Digit

/-!
# Whole numbers in a range

A whole number is written with ASCII digits and a plus sign if wanted; a minus sign only where
the range goes below zero. A number outside of the range is none.
-/
namespace MeterSight.Decimal
open Text

/-- Drops a plus sign in front. -/
def dropPlus : List Char → List Char
  | '+' :: rest => rest
  | text => text

/-- The number that a row of one or more digits denotes, up to `limit`. -/
def digits? (limit : Nat) (text : List Char) : Option Nat :=
  if text ≠ [] ∧ text.all isAsciiDigit ∧ naturalOf text ≤ limit then some (naturalOf text) else none

/-- Reads a number from `0` to `limit`. -/
def natural? (limit : Nat) (text : List Char) : Option Nat := digits? limit (dropPlus text)

/-- Reads a number from `-limit - 1` to `limit`. -/
def integer? (limit : Nat) (text : List Char) : Option Int :=
  match text with
  | '-' :: digits => (digits? (limit + 1) digits).map fun n => -(n : Int)
  | _ => (natural? limit text).map Int.ofNat

/-- The largest number of 31 bits. -/
def maxInt32 : Nat := 2147483647

/-- The largest number of 32 bits. -/
def maxUInt32 : Nat := 4294967295

/-- The largest number of 63 bits. -/
def maxInt64 : Nat := 9223372036854775807

/-- The largest number of 64 bits. -/
def maxUInt64 : Nat := 18446744073709551615

theorem digits?_le {limit n : Nat} {text : List Char} (h : digits? limit text = some n) :
    n ≤ limit := by
  unfold digits? at h
  split at h
  · next bound => exact Option.some.inj h ▸ bound.2.2
  · simp at h

theorem natural?_le {limit n : Nat} {text : List Char} (h : natural? limit text = some n) :
    n ≤ limit :=
  digits?_le h

end MeterSight.Decimal
