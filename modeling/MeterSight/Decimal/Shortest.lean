/-!
# Shortest decimals

The fewest decimal digits that read back as a given double, and of those the nearest to it. The
doubles that round to a value fill an interval; a decimal grid is tried after the other, from
coarse to fine, until one of the two grid points beside the value lies in the interval.
-/
namespace MeterSight.Decimal

/-- The positive number `significand · 2 ^ power`. -/
structure Dyadic where
  significand : Nat
  power : Int
  /-- The next smaller number is only half as far as the next larger one. -/
  lowestOfBinade : Bool
  deriving Repr

/-- A double has 52 bits of fraction. -/
def fractionSize : Nat := 0x10000000000000

/-- The absolute value of a finite double. -/
def Dyadic.ofFloat (x : Float) : Dyadic :=
  let bits := x.toBits.toNat
  let field := bits / fractionSize % 0x800
  let fraction := bits % fractionSize
  if field = 0 then ⟨fraction, -1074, false⟩
  else ⟨fraction + fractionSize, (field : Int) - 1075, fraction = 0 ∧ 1 < field⟩

/-- The number `digits · 10 ^ exponent`. -/
structure Digits where
  digits : Nat
  exponent : Int
  deriving DecidableEq, Repr

/-- Moves zeros at the end into the exponent. -/
def Digits.strip (d : Digits) : Digits := go (Nat.log2 d.digits + 1) d
where
  go : Nat → Digits → Digits
    | 0, d => d
    | fuel + 1, d =>
      if d.digits ≠ 0 ∧ d.digits % 10 = 0 then go fuel ⟨d.digits / 10, d.exponent + 1⟩ else d

/-- A quarter of the last place of a double, and one step of a decimal grid, in a common unit. -/
structure Units where
  quarter : Nat
  step : Nat

/-- A power, or one where the exponent is negative. -/
def wholePower (base : Nat) (exponent : Int) : Nat := Nat.pow base exponent.toNat

/-- The units of `2 ^ (power - 2)` and `10 ^ exponent`. -/
def units (power exponent : Int) : Units where
  quarter := wholePower 2 (power - 2) * wholePower 10 (-exponent)
  step := wholePower 2 (2 - power) * wholePower 10 exponent

/-- Which of two decimals as near is taken. -/
inductive Tie where
  /-- The one with an even last digit. -/
  | even
  /-- The greater one. -/
  | greater
  deriving DecidableEq, Repr

/-- The point of the grid with steps of `10 ^ exponent` that reads back as `d` and is nearest to
it. -/
def gridPoint? (tie : Tie) (d : Dyadic) (exponent : Int) : Option Nat :=
  let u := units d.power exponent
  let center := 4 * d.significand * u.quarter
  let low := (4 * d.significand - if d.lowestOfBinade then 1 else 2) * u.quarter
  let high := (4 * d.significand + 2) * u.quarter
  let even := d.significand % 2 = 0
  let below := center / u.step
  let belowFits := if even then low ≤ below * u.step else low < below * u.step
  let aboveFits := if even then (below + 1) * u.step ≤ high else (below + 1) * u.step < high
  let toBelow := center - below * u.step
  let toAbove := (below + 1) * u.step - center
  if belowFits ∧ aboveFits then
    let takesBelow := toBelow < toAbove ∨ (toBelow = toAbove ∧ tie = .even ∧ below % 2 = 0)
    some (if takesBelow then below else below + 1)
  else if belowFits then some below
  else if aboveFits then some (below + 1)
  else none

/-- The exponent of the first decimal digit. -/
def leadingExponent (d : Dyadic) : Int :=
  let u := units d.power (-400)
  ((Nat.toDigits 10 (4 * d.significand * u.quarter / u.step)).length : Int) - 401

/-- Seventeen digits always suffice. -/
def mostDigits : Nat := 17

/-- The shortest digits of a positive number. -/
def shortest (tie : Tie) (d : Dyadic) : Digits :=
  let lead := leadingExponent d
  let found := (List.range mostDigits).findSome? fun (n : Nat) =>
    (gridPoint? tie d (lead - n)).map fun point => Digits.mk point (lead - n)
  (found.getD ⟨0, 0⟩).strip

end MeterSight.Decimal
