import MeterSight.Decimal.Shortest

/-!
# Layout of decimals

Where the point of a shortest decimal goes, when an exponent is written instead, and what stands
for the numbers without digits.
-/
namespace MeterSight.Decimal

/-- The decisions of one way to write doubles. -/
structure Layout where
  /-- Whether a number whose first digit has this power of ten is written without exponent. -/
  positional : Int → Bool
  /-- Which of two shortest decimals as near is written. -/
  tie : Tie
  /-- What ends a whole number that is written without exponent. -/
  wholeEnd : String
  notANumber : String
  infinity : String

/-- Digits around a point, without exponent. -/
def positionalText (wholeEnd : String) (d : Digits) : String :=
  let digits := toString d.digits
  let point := (digits.length : Int) + d.exponent
  if 0 ≤ d.exponent then digits ++ String.ofList (List.replicate d.exponent.toNat '0') ++ wholeEnd
  else if 0 < point then
    String.ofList (digits.toList.take point.toNat) ++ "." ++
      String.ofList (digits.toList.drop point.toNat)
  else "0." ++ String.ofList (List.replicate (-point).toNat '0') ++ digits

/-- One digit, a point and the others if there are any, and the signed exponent. -/
def exponentText (d : Digits) : String :=
  let digits := toString d.digits
  let lead := (digits.length : Int) + d.exponent - 1
  let others := String.ofList (digits.toList.drop 1)
  String.ofList (digits.toList.take 1) ++ (if others.isEmpty then "" else "." ++ others) ++ "e" ++
    (if lead < 0 then "-" else "+") ++ toString lead.natAbs

/-- A double with the fewest digits that read back. -/
def Layout.write (l : Layout) (x : Float) : String :=
  let sign := if x.toBits.toNat.testBit 63 then "-" else ""
  if x.isNaN then l.notANumber
  else if x.isInf then sign ++ l.infinity
  else
    let d := if x == 0.0 then ⟨0, 0⟩ else shortest l.tie (Dyadic.ofFloat x)
    let lead := (toString d.digits).length + d.exponent - 1
    sign ++ if l.positional lead then positionalText l.wholeEnd d else exponentText d

end MeterSight.Decimal
