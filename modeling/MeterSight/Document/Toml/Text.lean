import MeterSight.Text.Digit

/-!
# Strings and keys of TOML

The four kinds of strings, bare and quoted keys, and the blanks and comments between the parts.
-/
namespace MeterSight.Toml
open Text

/-- Blanks within a line. -/
def isSpace (c : Char) : Bool := c == ' ' || c == '\t'

def skip (cs : List Char) : List Char := cs.dropWhile isSpace

/-- What may stand in a comment or a string of one line: no control character but the tab. -/
def isPrintable (c : Char) : Bool := c == '\t' || (32 ≤ c.toNat && c.toNat ≠ 127)

/-- A line end: LF or CRLF. -/
def newline? : List Char → Option (List Char)
  | '\n' :: rest => some rest
  | '\r' :: '\n' :: rest => some rest
  | _ => none

/-- Drops a comment that starts here, up to the line end. -/
def skipComment : List Char → List Char
  | '#' :: rest => rest.dropWhile isPrintable
  | cs => cs

/-- What must follow a complete line: blanks, perhaps a comment, and the line end or the end. -/
def lineEnd? (cs : List Char) : Option (List Char) :=
  match skipComment (skip cs) with
  | [] => some []
  | rest => newline? rest

/-- Drops blanks, comments and line ends. -/
def skipLines : Nat → List Char → List Char
  | 0, cs => cs
  | fuel + 1, cs =>
    let rest := skipComment (skip cs)
    match newline? rest with
    | some rest => skipLines fuel rest
    | none => rest

/-- Drops blanks, comments and line ends, as many as there are. -/
def skipAll (cs : List Char) : List Char := skipLines (cs.length + 1) cs

/-- The character with a number that is one. -/
def scalar? (n : Nat) : Option Char := if n.isValidChar then some (Char.ofNat n) else none

/-- An escape after its backslash. -/
def escape? : List Char → Option (Char × List Char)
  | 'b' :: rest => some ('\x08', rest)
  | 't' :: rest => some ('\t', rest)
  | 'n' :: rest => some ('\n', rest)
  | 'f' :: rest => some ('\x0c', rest)
  | 'r' :: rest => some ('\r', rest)
  | '"' :: rest => some ('"', rest)
  | '\\' :: rest => some ('\\', rest)
  | 'u' :: rest => (readHex 4 rest).bind fun (n, rest) => (scalar? n).map (·, rest)
  | 'U' :: rest => (readHex 8 rest).bind fun (n, rest) => (scalar? n).map (·, rest)
  | _ => none

/-- A string of one line after its opening quote; escapes count only between double quotes. -/
def readLine (quote : Char) (escapes : Bool) : Nat → List Char → Option (List Char × List Char)
  | 0, _ => none
  | _ + 1, [] => none
  | fuel + 1, c :: rest =>
    if c = quote then some ([], rest)
    else if c = '\\' ∧ escapes then do
      let (c, rest) ← escape? rest
      let (cs, rest) ← readLine quote escapes fuel rest
      return (c :: cs, rest)
    else if isPrintable c then do
      let (cs, rest) ← readLine quote escapes fuel rest
      return (c :: cs, rest)
    else none

/-- Drops blanks and line ends. -/
def skipBlankLines : Nat → List Char → List Char
  | 0, cs => cs
  | fuel + 1, cs =>
    match newline? (skip cs) with
    | some rest => skipBlankLines fuel rest
    | none => skip cs

/-- The line end after a backslash and blanks, with all blanks and line ends that follow. -/
def continuation? (cs : List Char) : Option (List Char) :=
  (newline? (skip cs)).map fun rest => skipBlankLines (rest.length + 1) rest

/-- A string of several lines after its opening quotes. One or two quotes belong to the text, also
right before the three that close it. -/
def readLong (quote : Char) (escapes : Bool) : Nat → List Char → Option (List Char × List Char)
  | 0, _ => none
  | _ + 1, [] => none
  | fuel + 1, c :: rest =>
    if c = quote then
      let more := rest.takeWhile (· == quote)
      let after := rest.dropWhile (· == quote)
      let count := more.length + 1
      if 6 ≤ count then none
      else if 3 ≤ count then some (List.replicate (count - 3) quote, after)
      else do
        let (cs, rest) ← readLong quote escapes fuel after
        return (List.replicate count quote ++ cs, rest)
    else if c = '\\' ∧ escapes then
      match continuation? rest with
      | some rest => readLong quote escapes fuel rest
      | none => do
        let (c, rest) ← escape? rest
        let (cs, rest) ← readLong quote escapes fuel rest
        return (c :: cs, rest)
    else
      match newline? (c :: rest) with
      | some rest => do
        let (cs, rest) ← readLong quote escapes fuel rest
        return ('\n' :: cs, rest)
      | none =>
        if isPrintable c then do
          let (cs, rest) ← readLong quote escapes fuel rest
          return (c :: cs, rest)
        else none

/-- A string of either kind of quote. A line end right after three quotes is not part of it. -/
def readString (quote : Char) (escapes : Bool) (cs : List Char) : Option (String × List Char) :=
  let found := match cs with
    | a :: b :: rest =>
      if a = quote ∧ b = quote then
        let rest := (newline? rest).getD rest
        readLong quote escapes (rest.length + 1) rest
      else readLine quote escapes (cs.length + 1) cs
    | _ => readLine quote escapes (cs.length + 1) cs
  found.map fun (text, rest) => (String.ofList text, rest)

/-- A string that must end in its line. -/
def readShort (quote : Char) (escapes : Bool) (cs : List Char) : Option (String × List Char) :=
  (readLine quote escapes (cs.length + 1) cs).map fun (text, rest) => (String.ofList text, rest)

/-- The characters of bare keys. -/
def isBare (c : Char) : Bool :=
  isAsciiDigit c || ('a' ≤ c && c ≤ 'z') || ('A' ≤ c && c ≤ 'Z') || c == '_' || c == '-'

/-- One part of a key. -/
def readPart : List Char → Option (String × List Char)
  | '"' :: rest => readShort '"' true rest
  | '\'' :: rest => readShort '\'' false rest
  | cs =>
    let bare := cs.takeWhile isBare
    if bare = [] then none else some (String.ofList bare, cs.dropWhile isBare)

/-- A key of parts with points between, and blanks around every part. -/
def readParts : Nat → List Char → Option (List String × List Char)
  | 0, _ => none
  | fuel + 1, cs => do
    let (part, rest) ← readPart (skip cs)
    match skip rest with
    | '.' :: rest => do
      let (parts, rest) ← readParts fuel rest
      return (part :: parts, rest)
    | rest => return ([part], rest)

/-- Keys have fewer parts than this. -/
def keyLimit : Nat := 80

/-- A key that is not too deep. -/
def readKey (cs : List Char) : Option (List String × List Char) :=
  (readParts keyLimit cs).bind fun (parts, rest) =>
    if parts.length < keyLimit then some (parts, rest) else none

end MeterSight.Toml
