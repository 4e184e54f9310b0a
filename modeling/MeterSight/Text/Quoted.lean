import MeterSight.Text.Visible

/-!
# Quoted texts

A JSON string escapes the quote, the backslash and the control characters, and nothing else. A text
that is quoted for people to see also escapes whatever cannot be seen by itself.
-/
namespace MeterSight.Text

/-- The lower-case hexadecimal digits of a number. -/
def hexText (n : Nat) : List Char := Nat.toDigits 16 n

/-- A control character as four hexadecimal digits. -/
def controlEscape (c : Char) : List Char :=
  let digits := hexText c.toNat
  ['\\', 'u'] ++ List.replicate (4 - digits.length) '0' ++ digits

/-- One character inside a JSON string. -/
def jsonEscape (c : Char) : List Char :=
  if c = '"' then ['\\', '"']
  else if c = '\\' then ['\\', '\\']
  else if c.toNat = 8 then ['\\', 'b']
  else if c.toNat = 12 then ['\\', 'f']
  else if c = '\n' then ['\\', 'n']
  else if c = '\r' then ['\\', 'r']
  else if c = '\t' then ['\\', 't']
  else if c.toNat < 32 then controlEscape c
  else [c]

/-- A text as a JSON string. -/
def jsonQuoted (s : String) : String :=
  String.ofList ('"' :: (s.toList.flatMap jsonEscape ++ ['"']))

/-- One character of a text quoted for people. -/
def visibleEscape (c : Char) : List Char :=
  if c = '"' ∨ c = '\\' then ['\\', c]
  else if c = '\n' then ['\\', 'n']
  else if c = '\r' then ['\\', 'r']
  else if c = '\t' then ['\\', 't']
  else if c.toNat = 0 then ['\\', '0']
  else if isVisible c then [c]
  else ['\\', 'u', '\x7b'] ++ hexText c.toNat ++ ['\x7d']

/-- A text quoted for people to see. -/
def visiblyQuoted (s : String) : String :=
  String.ofList ('"' :: (s.toList.flatMap visibleEscape ++ ['"']))

end MeterSight.Text
