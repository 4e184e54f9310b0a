import MeterSight.Decimal.Numeral
import MeterSight.Decimal.Whole
import MeterSight.Ocr.Engine
import MeterSight.Text.Blank
import MeterSight.Text.Line

/-!
# Word tables

An engine program answers with a table: a heading line, then lines of twelve columns between tabs.
The columns are level, page, block, paragraph, line, word, left, top, width, height, confidence
and text. Lines of level five are words.
-/
namespace MeterSight.WordTable
open Text Decimal

/-- The level of words. -/
def wordLevel : Int := 5

/-- The number of columns. More are ignored. -/
def columns : Nat := 12

/-- A cell that holds a number of pixels; anything else is zero. -/
def pixels (cell : List Char) : Nat := (natural? maxUInt32 (trim cell)).getD 0

/-- A cell that holds a confidence; anything else is negative. -/
def confidence (cell : List Char) : Float :=
  ((RealText.read? (trim cell)).map RealText.toSingle).getD (-1.0)

/-- Coordinates have 32 bits. -/
def translate (origin v : Nat) : Nat := (origin + v) % (maxUInt32 + 1)

/-- The word on a line, moved right and down, if the line holds one. -/
def word? (left top : Nat) (line : List Char) : Option Word :=
  match splitAt '\t' line with
  | level :: _ :: _ :: _ :: _ :: _ :: x :: y :: width :: height :: conf :: text :: _ =>
    if integer? maxInt32 level ≠ some wordLevel then none
    else if trim text = [] ∨ confidence conf < 0.0 then none
    else some {
      text := String.ofList (trim text)
      confidence := confidence conf
      bounds := ⟨translate left (pixels x), translate top (pixels y), pixels width, pixels height⟩ }
  | _ => none

/-- The words of a table, moved right and down. -/
def words (left top : Nat) (table : List Char) : List Word :=
  ((lines table).drop 1).filterMap (word? left top)

end MeterSight.WordTable
