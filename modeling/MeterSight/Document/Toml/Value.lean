import MeterSight.Document.Basic
import MeterSight.Document.Toml.Text
import MeterSight.Decimal.Numeral
import MeterSight.Decimal.Whole

/-!
# Values of TOML

Numbers, dates, arrays and inline tables. A value is read as far as it goes; what follows it in
the line tells whether that was all.
-/
namespace MeterSight.Toml
open Text Decimal

/-- Digits with single underscores between them, at least one, without the underscores. -/
def readDigits (digit : Char → Bool) : List Char → Option (List Char × List Char)
  | [] => none
  | c :: rest => if digit c then some (go rest c) else none
where
  go : List Char → Char → List Char × List Char
    | '_' :: d :: rest, c =>
      if digit d then let (ds, rest) := go rest d; (c :: ds, rest) else ([c], '_' :: d :: rest)
    | d :: rest, c =>
      if digit d then let (ds, rest) := go rest d; (c :: ds, rest) else ([c], d :: rest)
    | [], c => ([c], [])

/-- An integer if it fits 64 bits with sign. -/
def integer (n : Int) : Option Document :=
  if -(maxInt64 : Int) - 1 ≤ n ∧ n ≤ maxInt64 then some (.integer n) else none

/-- The number in a base after the mark of that base. -/
def readBase (base : Nat) (cs : List Char) : Option (Document × List Char) := do
  let isDigit c := match hexDigit? c with
    | some d => decide (d < base)
    | none => false
  let (digits, rest) ← readDigits isDigit cs
  let n := digits.foldl (fun n c => n * base + (hexDigit? c).getD 0) 0
  (integer n).map (·, rest)

/-- The whole part of a decimal number: zero, or digits that do not start with it. -/
def readWhole : List Char → Option (List Char × List Char)
  | '0' :: rest => some (['0'], rest)
  | cs => readDigits isAsciiDigit cs

/-- The fraction after a whole part, if there is one. -/
def readFraction : List Char → Option (List Char × List Char)
  | '.' :: rest => readDigits isAsciiDigit rest
  | rest => some ([], rest)

/-- The exponent, if there is one. -/
def readExponent : List Char → Option (Option Int × List Char)
  | mark :: rest =>
    if mark = 'e' ∨ mark = 'E' then do
      let (negative, rest) := readSign rest
      let (digits, rest) ← readDigits isAsciiDigit rest
      return (some (if negative then -(naturalOf digits : Int) else naturalOf digits), rest)
    else some (none, mark :: rest)
  | [] => some (none, [])

/-- A decimal number after its sign. A positive number too large for a double is refused; a
negative one is minus infinity. -/
def readDecimal (negative : Bool) (cs : List Char) : Option (Document × List Char) := do
  let (whole, rest) ← readWhole cs
  let (fraction, rest) ← readFraction rest
  let (exponent, rest) ← readExponent rest
  if fraction = [] ∧ exponent = none then
    let n : Int := naturalOf whole
    (integer (if negative then -n else n)).map (·, rest)
  else
    let n : Numeral :=
      ⟨negative, naturalOf (whole ++ fraction), exponent.getD 0 - fraction.length⟩
    if n.toFloat == infinity false then none else some (.float n.toFloat, rest)

/-- A given word and what follows it. -/
def word? (word : String) (cs : List Char) : Option (List Char) :=
  if word.toList.isPrefixOf cs then some (cs.drop word.length) else none

/-- A number after its sign, or the name of one that is not finite. -/
def readSigned (negative : Bool) (cs : List Char) : Option (Document × List Char) :=
  match word? "inf" cs with
  | some rest => some (.float (infinity negative), rest)
  | none =>
    match word? "nan" cs with
    | some rest => some (.float nan, rest)
    | none => readDecimal negative cs

/-- A number without sign. -/
def readUnsigned : List Char → Option (Document × List Char)
  | '0' :: 'x' :: rest => readBase 16 rest
  | '0' :: 'o' :: rest => readBase 8 rest
  | '0' :: 'b' :: rest => readBase 2 rest
  | cs => readDecimal false cs

/-- Exactly so many digits, as a number. -/
def field? (n : Nat) (cs : List Char) : Option (Nat × List Char) :=
  let digits := cs.take n
  if digits.length = n ∧ digits.all isAsciiDigit then some (naturalOf digits, cs.drop n) else none

/-- A given character and what follows it. -/
def char? (c : Char) : List Char → Option (List Char)
  | d :: rest => if c = d then some rest else none
  | [] => none

/-- The days of a month. -/
def daysIn (year month : Nat) : Nat :=
  if month = 2 then
    if year % 4 = 0 ∧ (year % 100 ≠ 0 ∨ year % 400 = 0) then 29 else 28
  else if month = 4 ∨ month = 6 ∨ month = 9 ∨ month = 11 then 30
  else 31

/-- Skips a date. -/
def skipDate (cs : List Char) : Option (List Char) := do
  let (year, rest) ← field? 4 cs
  let (month, rest) ← field? 2 (← char? '-' rest)
  let (day, rest) ← field? 2 (← char? '-' rest)
  if 1 ≤ month ∧ month ≤ 12 ∧ 1 ≤ day ∧ day ≤ daysIn year month then some rest else none

/-- Skips a time of day, perhaps with a fraction of a second. -/
def skipTime (cs : List Char) : Option (List Char) := do
  let (hour, rest) ← field? 2 cs
  let (minute, rest) ← field? 2 (← char? ':' rest)
  let (second, rest) ← field? 2 (← char? ':' rest)
  if hour ≤ 23 ∧ minute ≤ 59 ∧ second ≤ 60 then
    match rest with
    | '.' :: more =>
      if (more.takeWhile isAsciiDigit) = [] then some rest else some (more.dropWhile isAsciiDigit)
    | _ => some rest
  else none

/-- Skips the offset from universal time, if there is one. -/
def skipOffset : List Char → Option (List Char)
  | [] => some []
  | c :: rest =>
    if c = 'Z' ∨ c = 'z' then some rest
    else if c = '+' ∨ c = '-' then do
      let (hour, rest) ← field? 2 rest
      let (minute, rest) ← field? 2 (← char? ':' rest)
      if hour ≤ 23 ∧ minute ≤ 59 then some rest else none
    else some (c :: rest)

/-- Skips a date, a time, or a date with a time and perhaps an offset. -/
def skipDateTime (cs : List Char) : Option (List Char) :=
  match skipDate cs with
  | none => skipTime cs
  | some rest =>
    match rest with
    | c :: more =>
      if c = 'T' ∨ c = 't' ∨ c = ' ' then
        match skipTime more with
        | some rest => skipOffset rest
        | none => some rest
      else some rest
    | [] => some rest

/-- A value that is not an array or an inline table. -/
def readScalar : List Char → Option (Document × List Char)
  | '"' :: rest => (readString '"' true rest).map fun (s, rest) => (.string s, rest)
  | '\'' :: rest => (readString '\'' false rest).map fun (s, rest) => (.string s, rest)
  | '+' :: rest => readSigned false rest
  | '-' :: rest => readSigned true rest
  | 't' :: rest => (word? "rue" rest).map (.bool true, ·)
  | 'f' :: rest => (word? "alse" rest).map (.bool false, ·)
  | 'i' :: rest => readSigned false ('i' :: rest)
  | 'n' :: rest => readSigned false ('n' :: rest)
  | cs =>
    match skipDateTime cs with
    | some rest => some (.dateTime, rest)
    | none => readUnsigned cs

/-- Items up to the closing bracket. A comma may follow the last one. -/
def readItems (value : List Char → Option (Document × List Char)) :
    Nat → List Char → Option (List Document × List Char)
  | 0, _ => none
  | fuel + 1, cs =>
    match skipAll cs with
    | ']' :: rest => some ([], rest)
    | rest => do
      let (item, rest) ← value rest
      match skipAll rest with
      | ',' :: rest => do
        let (items, rest) ← readItems value fuel rest
        return (item :: items, rest)
      | ']' :: rest => return ([item], rest)
      | _ => none

/-- A key and its value within a line. -/
def readPair (value : List Char → Option (Document × List Char)) (cs : List Char) :
    Option ((List String × Document) × List Char) := do
  let (key, rest) ← readKey cs
  let rest ← char? '=' rest
  let (item, rest) ← value (skip rest)
  return ((key, item), rest)

/-- Pairs up to the closing brace, at least one, all in one line. -/
def readPairs (value : List Char → Option (Document × List Char)) :
    Nat → List Char → Option (List (List String × Document) × List Char)
  | 0, _ => none
  | fuel + 1, cs => do
    let (pair, rest) ← readPair value cs
    match skip rest with
    | ',' :: rest => do
      let (pairs, rest) ← readPairs value fuel rest
      return (pair :: pairs, rest)
    | '}' :: rest => return ([pair], rest)
    | _ => none

end MeterSight.Toml
