import MeterSight.Decimal.Numeral
import MeterSight.Text.Blank

/-!
# Leading numbers

The number that a recognized text begins with. Digits of every script count as part of it, but
only a number in ASCII digits has a value; any other is zero.
-/
namespace MeterSight
open Text Decimal

namespace LeadingNumber

/-- A sign in front and the rest. -/
def splitSign : List Char → List Char × List Char
  | '+' :: rest => (['+'], rest)
  | '-' :: rest => (['-'], rest)
  | rest => ([], rest)

/-- Digits with at most one point among or beside them, and the rest. -/
def splitMantissa (text : List Char) : List Char × List Char :=
  let whole := text.takeWhile isDigit
  let rest := text.dropWhile isDigit
  match rest with
  | '.' :: more =>
    let fraction := more.takeWhile isDigit
    if whole = [] ∧ fraction = [] then ([], text)
    else (whole ++ '.' :: fraction, more.dropWhile isDigit)
  | _ => (whole, rest)

/-- An exponent at the start, if it is complete. -/
def exponentText : List Char → List Char
  | mark :: rest =>
    let (sign, rest) := splitSign rest
    let digits := rest.takeWhile isDigit
    if (mark = 'e' ∨ mark = 'E') ∧ digits ≠ [] then mark :: (sign ++ digits) else []
  | [] => []

/-- The longest start of a text that has the form of a number, if there is one. -/
def text? (text : List Char) : Option (List Char) :=
  let (sign, rest) := splitSign text
  let (mantissa, rest) := splitMantissa rest
  if mantissa = [] then none else some (sign ++ mantissa ++ exponentText rest)

end LeadingNumber

/-- Zero. -/
def Decimal.Numeral.zero : Numeral := ⟨false, 0, 0⟩

/-- The number that a text begins with after blanks; zero if there is none. -/
def leadingNumber (text : List Char) : Numeral :=
  match (LeadingNumber.text? (trimStart text)).bind RealText.read? with
  | some (.finite n) => n
  | _ => .zero

end MeterSight
