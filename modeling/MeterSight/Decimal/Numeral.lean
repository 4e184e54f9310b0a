import MeterSight.Text.Digit

/-!
# Decimal numerals

A numeral is a sign, a natural number and a power of ten. This module reads numerals and the
names of the non-finite values, and rounds them to double or single precision.
-/
namespace MeterSight.Decimal
open Text

/-- The number `± mantissa · 10 ^ exponent`. -/
structure Numeral where
  negative : Bool
  mantissa : Nat
  exponent : Int
  deriving DecidableEq, Repr

/-- A text that stands for a real number, an infinity or no number. -/
inductive RealText where
  | finite (n : Numeral)
  | infinite (negative : Bool)
  | notANumber
  deriving DecidableEq, Repr

/-- How many decimal digits a positive number has. -/
def digitCount (n : Nat) : Nat := (Nat.toDigits 10 n).length

/-- Powers of ten beyond these are far outside the range of doubles. -/
def farExponent : Int := 400

/-- A number of single precision as a double, which loses nothing. -/
def widen (x : Float32) : Float :=
  .ofModel (.pack (match x.toModel.unpack with
    | .finite s m e _ => .round .binary64 s m e
    | u => u))

namespace Numeral

/-- The value is below ten to this power, and not below a tenth of it. -/
def order (n : Numeral) : Int := digitCount n.mantissa + n.exponent

/-- The nearest double of the absolute value, ties to even. -/
def absFloat (n : Numeral) : Float :=
  if n.mantissa = 0 ∨ n.order < -farExponent then 0.0
  else if n.order > farExponent then 1.0 / 0.0
  else Float.ofScientific n.mantissa (n.exponent < 0) n.exponent.natAbs

/-- The nearest double, ties to even; too large a value becomes infinite. -/
def toFloat (n : Numeral) : Float := if n.negative then -n.absFloat else n.absFloat

/-- The nearest number of single precision of the absolute value, ties to even. -/
def absSingle (n : Numeral) : Float32 :=
  if n.mantissa = 0 ∨ n.order < -farExponent then 0.0
  else if n.order > farExponent then 1.0 / 0.0
  else Float32.ofScientific n.mantissa (n.exponent < 0) n.exponent.natAbs

/-- The nearest number of single precision, ties to even, as a double. -/
def toSingle (n : Numeral) : Float := widen (if n.negative then -n.absSingle else n.absSingle)

end Numeral

/-- The double that stands for no number. -/
def nan : Float := 0.0 / 0.0

/-- The infinite double of a sign. -/
def infinity (negative : Bool) : Float := if negative then -1.0 / 0.0 else 1.0 / 0.0

def RealText.toFloat : RealText → Float
  | .finite n => n.toFloat
  | .infinite negative => infinity negative
  | .notANumber => nan

def RealText.toSingle : RealText → Float
  | .finite n => n.toSingle
  | .infinite negative => infinity negative
  | .notANumber => nan

/-- Reads a sign, if there is one. -/
def readSign : List Char → Bool × List Char
  | '+' :: rest => (false, rest)
  | '-' :: rest => (true, rest)
  | rest => (false, rest)

/-- The exponent that ends a numeral: a mark, a sign if there is one, and digits to the end. -/
def exponentOf? : List Char → Option Int
  | [] => some 0
  | mark :: rest =>
    let (negative, digits) := readSign rest
    if (mark = 'e' ∨ mark = 'E') ∧ digits ≠ [] ∧ digits.all isAsciiDigit then
      some (if negative then -(naturalOf digits : Int) else naturalOf digits)
    else none

/-- Reads an unsigned numeral that fills the text: digits with at most one point among or beside
them, then perhaps an exponent. -/
def unsignedNumeral? (negative : Bool) (text : List Char) : Option Numeral :=
  let whole := text.takeWhile isAsciiDigit
  let rest := text.dropWhile isAsciiDigit
  let (fraction, rest) := match rest with
    | '.' :: more => (more.takeWhile isAsciiDigit, more.dropWhile isAsciiDigit)
    | _ => ([], rest)
  if whole ++ fraction = [] then none
  else (exponentOf? rest).map fun e =>
    ⟨negative, naturalOf (whole ++ fraction), e - fraction.length⟩

/-- An ASCII letter in lower case. -/
def lower (c : Char) : Char := if 'A' ≤ c && c ≤ 'Z' then Char.ofNat (c.toNat + 32) else c

/-- Reads a real number that fills the text: a numeral, or in any case of letters `inf`,
`infinity` or `nan`, with a sign if there is one. -/
def RealText.read? (text : List Char) : Option RealText :=
  let (negative, body) := readSign text
  let name := body.map lower
  if name = ['i', 'n', 'f'] ∨ name = ['i', 'n', 'f', 'i', 'n', 'i', 't', 'y'] then
    some (.infinite negative)
  else if name = ['n', 'a', 'n'] then some .notANumber
  else (unsignedNumeral? negative body).map .finite

end MeterSight.Decimal
