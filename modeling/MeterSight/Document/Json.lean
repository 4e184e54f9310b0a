import MeterSight.Document.Basic
import MeterSight.Decimal.Layout
import MeterSight.Decimal.Whole
import MeterSight.Text.Quoted

/-!
# JSON

Reading a document from a JSON text, and writing one as compact JSON. A number with a fraction or
an exponent is read in two steps: its digits as an integer of 64 bits, later digits dropped, then
one multiplication or division by a power of ten. So the last bit may differ from the nearest
double.
-/
namespace MeterSight.Json
open Text Decimal

/-- Blanks between the parts of a JSON text. -/
def isSpace (c : Char) : Bool := c == ' ' || c == '\t' || c == '\n' || c == '\r'

def skip (cs : List Char) : List Char := cs.dropWhile isSpace

/-- The character that an escape of one letter stands for. -/
def shortEscape? : Char → Option Char
  | '"' => some '"'
  | '\\' => some '\\'
  | '/' => some '/'
  | 'b' => some '\x08'
  | 'f' => some '\x0c'
  | 'n' => some '\n'
  | 'r' => some '\r'
  | 't' => some '\t'
  | _ => none

/-- The second half of a surrogate pair, if one is next. -/
def lowSurrogate? : List Char → Option (Nat × List Char)
  | '\\' :: 'u' :: rest =>
    (readHex 4 rest).bind fun (n, rest) => if 0xDC00 ≤ n ∧ n ≤ 0xDFFF then some (n, rest) else none
  | _ => none

/-- The character of an escaped code unit and of a second one that completes it; no character for
half a pair. -/
def unit (n : Nat) (rest : List Char) : Option Char × List Char :=
  if 0xD800 ≤ n ∧ n ≤ 0xDBFF then
    match lowSurrogate? rest with
    | some (low, rest) =>
      (some (Char.ofNat (0x10000 + (n - 0xD800) * 0x400 + (low - 0xDC00))), rest)
    | none => (none, rest)
  else if 0xDC00 ≤ n ∧ n ≤ 0xDFFF then (none, rest)
  else (some (Char.ofNat n), rest)

/-- The characters up to the closing quote, each none that is half a surrogate pair. -/
def readString : Nat → List Char → Option (List (Option Char) × List Char)
  | 0, _ => none
  | _ + 1, [] => none
  | _ + 1, '"' :: rest => some ([], rest)
  | fuel + 1, '\\' :: 'u' :: rest => do
    let (n, rest) ← readHex 4 rest
    let (c, rest) := unit n rest
    let (cs, rest) ← readString fuel rest
    return (c :: cs, rest)
  | fuel + 1, '\\' :: e :: rest => do
    let c ← shortEscape? e
    let (cs, rest) ← readString fuel rest
    return (some c :: cs, rest)
  | fuel + 1, c :: rest =>
    if c.toNat < 32 ∨ c = '\\' then none
    else do
      let (cs, rest) ← readString fuel rest
      return (some c :: cs, rest)

/-- A string after its opening quote; no text where it holds half a surrogate pair. -/
def string? (cs : List Char) : Option (Option String × List Char) :=
  (readString (cs.length + 1) cs).map fun (found, rest) =>
    ((found.mapM id).map String.ofList, rest)

/-- Takes digits into a number as long as it stays within 64 bits, and counts the others. -/
def absorbWhole (digits : List Char) : Nat × Nat :=
  digits.foldl (fun (n, dropped) c =>
    if dropped = 0 ∧ n * 10 + digitValue c ≤ maxUInt64 then (n * 10 + digitValue c, 0)
    else (n, dropped + 1)) (0, 0)

/-- Takes further digits into a number up to the first that would leave 64 bits, and counts them. -/
def absorbFraction (n : Nat) : List Char → Nat × Nat
  | [] => (n, 0)
  | c :: rest =>
    if n * 10 + digitValue c ≤ maxUInt64 then
      let (m, taken) := absorbFraction (n * 10 + digitValue c) rest
      (m, taken + 1)
    else (n, 0)

/-- The largest power of ten that is a double. -/
def topPower : Nat := 308

/-- The double nearest to a power of ten. -/
def tenPower (k : Nat) : Float := Float.ofScientific 1 false k

/-- Multiplies or divides by a power of ten, in several steps where one power is too small to be a
double. None where the result would be infinite. -/
def scaleByTen (x : Float) (e : Int) : Option Float :=
  if e.natAbs ≤ topPower then
    if 0 ≤ e then
      let y := x * tenPower e.natAbs
      if y.isInf then none else some y
    else some (x / tenPower e.natAbs)
  else if x == 0.0 then some x
  else if 0 ≤ e then none
  else scaleByTen (x / tenPower topPower) (e + topPower)
termination_by e.natAbs
decreasing_by simp only [topPower] at *; omega

/-- The parts of a JSON number. -/
structure NumberText where
  negative : Bool
  whole : List Char
  fraction : List Char
  /-- The sign and the digits of the exponent. -/
  exponent : Option (Bool × List Char)

/-- The double for the digits and the exponent, unless it is infinite. -/
def NumberText.toFloat? (t : NumberText) : Option Float :=
  let (n, dropped) := absorbWhole t.whole
  let (n, taken) := absorbFraction n t.fraction
  let shift : Int := dropped - taken
  let size := match t.exponent with
    | none => scaleByTen (Float.ofNat n) shift
    | some (negative, digits) =>
      let e := naturalOf digits
      if maxInt32 < e then if n ≠ 0 ∧ negative = false then none else some 0.0
      else scaleByTen (Float.ofNat n) (if negative then shift - e else shift + e)
  size.map fun x => if t.negative then -x else x

/-- A number without fraction and exponent is an integer if it fits 64 bits with or without sign;
minus zero is not. -/
def NumberText.toDocument (t : NumberText) : Document :=
  let n := naturalOf t.whole
  if t.fraction = [] ∧ t.exponent = none ∧ t.negative = false ∧ n ≤ maxUInt64 then .integer n
  else if t.fraction = [] ∧ t.exponent = none ∧ t.negative = true ∧ 1 ≤ n ∧ n ≤ maxInt64 + 1 then
    .integer (-n)
  else (t.toFloat?.map Document.float).getD .unusable

/-- The digits after a point, if there is one. -/
def readFraction : List Char → Option (List Char × List Char)
  | '.' :: rest =>
    let digits := rest.takeWhile isAsciiDigit
    if digits = [] then none else some (digits, rest.dropWhile isAsciiDigit)
  | rest => some ([], rest)

/-- The sign of an exponent and the rest. -/
def exponentSign : List Char → Bool × List Char
  | '+' :: rest => (false, rest)
  | '-' :: rest => (true, rest)
  | rest => (false, rest)

/-- The exponent, if there is one. -/
def readExponent : List Char → Option (Option (Bool × List Char) × List Char)
  | mark :: rest =>
    if mark = 'e' ∨ mark = 'E' then
      let (negative, rest) := exponentSign rest
      let digits := rest.takeWhile isAsciiDigit
      if digits = [] then none else some (some (negative, digits), rest.dropWhile isAsciiDigit)
    else some (none, mark :: rest)
  | [] => some (none, [])

/-- A number after its sign. Zero has no further digit. -/
def readNumber (negative : Bool) (cs : List Char) : Option (Document × List Char) := do
  let whole := cs.takeWhile isAsciiDigit
  if whole = [] ∨ (whole.head? = some '0' ∧ whole ≠ ['0']) then none
  else
    let (fraction, rest) ← readFraction (cs.dropWhile isAsciiDigit)
    let (exponent, rest) ← readExponent rest
    return (NumberText.toDocument ⟨negative, whole, fraction, exponent⟩, rest)

/-- A given word and what follows it. -/
def word? (word : String) (cs : List Char) : Option (List Char) :=
  if word.toList.isPrefixOf cs then some (cs.drop word.length) else none

/-- Items up to the closing bracket, at least one. -/
def readItems (value : List Char → Option (Document × List Char)) :
    Nat → List Char → Option (List Document × List Char)
  | 0, _ => none
  | fuel + 1, cs => do
    let (item, rest) ← value (skip cs)
    match skip rest with
    | ',' :: rest => do
      let (items, rest) ← readItems value fuel rest
      return (item :: items, rest)
    | ']' :: rest => return ([item], rest)
    | _ => none

/-- A name, a colon and a value. -/
def readField (value : List Char → Option (Document × List Char)) :
    List Char → Option ((Option String × Document) × List Char)
  | '"' :: rest => do
    let (name, rest) ← string? rest
    match skip rest with
    | ':' :: rest => do
      let (item, rest) ← value (skip rest)
      return ((name, item), rest)
    | _ => none
  | _ => none

/-- Fields up to the closing brace, at least one. -/
def readFields (value : List Char → Option (Document × List Char)) :
    Nat → List Char → Option (List (Option String × Document) × List Char)
  | 0, _ => none
  | fuel + 1, cs => do
    let (field, rest) ← readField value (skip cs)
    match skip rest with
    | ',' :: rest => do
      let (fields, rest) ← readFields value fuel rest
      return (field :: fields, rest)
    | '}' :: rest => return ([field], rest)
    | _ => none

/-- An object is of use only if all its names are texts. -/
def object (fields : List (Option String × Document)) : Document :=
  match fields.mapM fun (name, item) => name.map (·, item) with
  | some fields => .table fields
  | none => .unusable

/-- A value with at most `depth` levels of arrays and objects. -/
def readValue : Nat → List Char → Option (Document × List Char)
  | 0, _ => none
  | depth + 1, cs =>
    match cs with
    | '"' :: rest =>
      (string? rest).map fun (s, rest) => ((s.map Document.string).getD .unusable, rest)
    | '-' :: rest => readNumber true rest
    | '[' :: rest =>
      match skip rest with
      | ']' :: rest => some (.array [], rest)
      | rest => (readItems (readValue depth) (rest.length + 1) rest).map fun (items, rest) =>
        (.array items, rest)
    | '{' :: rest =>
      match skip rest with
      | '}' :: rest => some (.table [], rest)
      | rest => (readFields (readValue depth) (rest.length + 1) rest).map fun (fields, rest) =>
        (object fields, rest)
    | 'n' :: rest => (word? "ull" rest).map (.null, ·)
    | 't' :: rest => (word? "rue" rest).map (.bool true, ·)
    | 'f' :: rest => (word? "alse" rest).map (.bool false, ·)
    | _ => readNumber false cs

/-- Reads a text that is one JSON value. -/
def read? (text : List Char) : Option Document := do
  let (d, rest) ← readValue (text.length + 1) (skip text)
  if skip rest = [] then some d else none

/-- Numbers are positional from a hundred-thousandth up to sixteen digits, keep a point, and are
null where they are not finite. -/
def layout : Layout where
  positional e := -5 ≤ e && e ≤ 15
  tie := .even
  wholeEnd := ".0"
  notANumber := "null"
  infinity := "null"

/-- A double as a JSON value. -/
def numberText (x : Float) : String := if x.isFinite then layout.write x else "null"

mutual

/-- A document as JSON without blanks. What has no JSON form is null. -/
def write : Document → String
  | .null | .dateTime | .unusable => "null"
  | .bool b => if b then "true" else "false"
  | .integer n => toString n
  | .float x => numberText x
  | .string s => jsonQuoted s
  | .array items => "[" ++ writeItems items ++ "]"
  | .table fields => "\x7b" ++ writeFields fields ++ "\x7d"

def writeItems : List Document → String
  | [] => ""
  | [item] => write item
  | item :: items => write item ++ "," ++ writeItems items

def writeFields : List (String × Document) → String
  | [] => ""
  | [(name, item)] => jsonQuoted name ++ ":" ++ write item
  | (name, item) :: fields => jsonQuoted name ++ ":" ++ write item ++ "," ++ writeFields fields

end

end MeterSight.Json
