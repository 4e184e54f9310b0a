import MeterSight.Document.Toml.Value
import MeterSight.Document.Toml.Table

/-!
# TOML

Reading a document from a TOML text.
-/
namespace MeterSight.Toml
open Text

/-- A value with at most `depth` levels of arrays and inline tables. -/
def readValue : Nat → List Char → Option (Document × List Char)
  | 0, cs =>
    match cs with
    | '[' :: _ => none
    | '{' :: _ => none
    | cs => readScalar cs
  | depth + 1, cs =>
    match cs with
    | '[' :: rest =>
      (readItems (readValue depth) (rest.length + 1) rest).map fun (items, rest) =>
        (.array items, rest)
    | '{' :: rest =>
      match skip rest with
      | '}' :: rest => some (.table [], rest)
      | rest => do
        let (pairs, rest) ← readPairs (readValue depth) (rest.length + 1) rest
        return (← inlineTable? pairs, rest)
    | cs => readScalar cs

/-- Arrays and inline tables nest no deeper than this. -/
def depthLimit : Nat := 79

/-- What a line says, if it says anything. -/
inductive Line where
  | blank
  | pair (key : List String) (d : Document)
  | one (path : List String)
  | more (path : List String)

/-- Reads the line that starts here. -/
def readLine? (cs : List Char) : Option (Line × List Char) :=
  match skip cs with
  | '[' :: '[' :: rest => do
    let (path, rest) ← readKey rest
    let rest ← char? ']' (← char? ']' rest)
    return (.more path, ← lineEnd? rest)
  | '[' :: rest => do
    let (path, rest) ← readKey rest
    return (.one path, ← lineEnd? (← char? ']' rest))
  | rest =>
    match lineEnd? rest with
    | some rest => some (.blank, rest)
    | none => do
      let ((key, d), rest) ← readPair (readValue depthLimit) rest
      return (.pair key d, ← lineEnd? rest)

/-- The lines up to the end. A value may take several lines of the text. -/
def readLines : Nat → List Char → Option (List Line)
  | 0, _ => none
  | fuel + 1, cs =>
    if cs = [] then some []
    else do
      let (line, rest) ← readLine? cs
      return line :: (← readLines fuel rest)

/-- The keys up to the next header, and the sections from there. -/
def sectionsOf : List Line → List (List String × Document) × List Section
  | [] => ([], [])
  | .blank :: rest => sectionsOf rest
  | .pair key d :: rest =>
    let (pairs, sections) := sectionsOf rest
    ((key, d) :: pairs, sections)
  | .one path :: rest =>
    let (pairs, sections) := sectionsOf rest
    ([], .one path pairs :: sections)
  | .more path :: rest =>
    let (pairs, sections) := sectionsOf rest
    ([], .more path pairs :: sections)

/-- Drops a byte order mark in front. -/
def dropMark : List Char → List Char
  | '\uFEFF' :: rest => rest
  | cs => cs

/-- Reads a text that is one TOML document. -/
def read? (text : List Char) : Option Document := do
  let text := dropMark text
  let lines ← readLines (text.length + 1) text
  let (pairs, sections) := sectionsOf lines
  assemble? (.top pairs :: sections)

end MeterSight.Toml
