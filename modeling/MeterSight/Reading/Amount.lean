import MeterSight.Decimal.Numeral

/-!
# Amounts

What readings are counted in. Doubles serve, with their not-a-number for what cannot be read; the
operations are named so that readings can be reasoned about in exact arithmetic as well.
-/
namespace MeterSight
open Decimal

class Amount (α : Type) where
  zero : α
  add : α → α → α
  mul : α → α → α
  ofNumeral : Numeral → α
  /-- Ten to a whole power. -/
  tenTo : Int → α
  /-- The amount that stands for a confidence. -/
  ofConfidence : Float → α
  unreadable : α
  isUnreadable : α → Bool

/-- Multiplies `result` by `base ^ n`, squaring the base for every bit of `n`. -/
def powerOnto (result base : Float) (n : Nat) : Float :=
  if h : n = 0 then result
  else
    let result := if n % 2 = 1 then result * base else result
    powerOnto result (base * base) (n / 2)
termination_by n
decreasing_by omega

/-- Ten to a whole power, as repeated squaring rounds it. -/
def tenToFloat (n : Int) : Float :=
  let size := powerOnto 1.0 10.0 n.natAbs
  if n < 0 then 1.0 / size else size

instance : Amount Float where
  zero := 0.0
  add := (· + ·)
  mul := (· * ·)
  ofNumeral := Numeral.toFloat
  tenTo := tenToFloat
  ofConfidence x := x
  unreadable := nan
  isUnreadable := Float.isNaN

end MeterSight
