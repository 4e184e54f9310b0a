import MeterSight.Codec.Png.Chunk

/-!
# The rows of a PNG picture

Image data is unpacked to rows of packed samples. Each row says how its bytes were predicted from
those before. The rows may be spread over seven passes, each with a grid of its own.
-/
namespace MeterSight.Png
open Codec

/-- A pass over the picture: the first pixel and the steps between pixels. -/
structure Pass where
  x : Nat
  y : Nat
  stepX : Nat
  stepY : Nat

/-- The passes in order. -/
def Header.passes (h : Header) : List Pass :=
  if h.interlaced then
    [⟨0, 0, 8, 8⟩, ⟨4, 0, 8, 8⟩, ⟨0, 4, 4, 8⟩, ⟨2, 0, 4, 4⟩, ⟨0, 2, 2, 4⟩, ⟨1, 0, 2, 2⟩,
      ⟨0, 1, 1, 2⟩]
  else [⟨0, 0, 1, 1⟩]

/-- How many steps reach from a first position before the end. -/
def stepsBefore (size first step : Nat) : Nat := (size + step - 1 - first) / step

/-- The bytes of a row of a pass. -/
def Header.rowSize (h : Header) (p : Pass) : Nat :=
  (stepsBefore h.width p.x p.stepX * h.color.samples * h.depth + 7) / 8

/-- The rows of the picture that a pass goes through. -/
def Header.rowsReached (h : Header) (p : Pass) : Nat := stepsBefore h.height p.y p.stepY

/-- The rows of a pass; none if they have no pixels. -/
def Header.rowCount (h : Header) (p : Pass) : Nat :=
  if h.rowSize p = 0 then 0 else h.rowsReached p

/-- The bytes of all rows, each with the number of its prediction in front. -/
def Header.rawSize (h : Header) : Nat :=
  (h.passes.map fun p => h.rowCount p * (h.rowSize p + 1)).foldr (· + ·) 0

/-- The bytes that there may be: rows that have no pixels count with the number in front. -/
def Header.mostRaw (h : Header) : Nat :=
  (h.passes.map fun p => h.rowsReached p * (h.rowSize p + 1)).foldr (· + ·) 0

/-- The value nearest to the sum of the first two minus the third; of two as near, the former. -/
def nearestOf (left above corner : Nat) : Nat :=
  let away (v : Nat) : Nat := ((left : Int) + above - corner - v).natAbs
  if away left ≤ away above ∧ away left ≤ away corner then left
  else if away above ≤ away corner then above
  else corner

/-- What a byte is predicted to be. -/
def prediction (kind left above corner : Nat) : Nat :=
  match kind with
  | 1 => left
  | 2 => above
  | 3 => (left + above) / 2
  | 4 => nearestOf left above corner
  | _ => 0

/-- Restores a row from the one above it. A pixel lies `reach` bytes after the one to its left. -/
def restoreRow (raw : ByteArray) (start kind reach : Nat) (above : ByteArray) :
    Nat → ByteArray → ByteArray
  | 0, row => row
  | n + 1, row =>
    let i := row.size
    let left := if reach ≤ i then byteAt row (i - reach) else 0
    let corner := if reach ≤ i then byteAt above (i - reach) else 0
    let v := byteAt raw (start + i) + prediction kind left (byteAt above i) corner
    restoreRow raw start kind reach above n (row.push (UInt8.ofNat v))

/-- Restores rows of one size. -/
def restoreRows? (raw : ByteArray) (size reach : Nat) :
    Nat → Nat → ByteArray → Option (List ByteArray)
  | 0, _, _ => some []
  | n + 1, start, above =>
    let kind := byteAt raw start
    if 4 < kind then none
    else
      let row := restoreRow raw (start + 1) kind reach above size ByteArray.empty
      (restoreRows? raw size reach n (start + 1 + size) row).map (row :: ·)

/-- Restores the rows of all passes. -/
def restorePasses? (raw : ByteArray) (h : Header) :
    List Pass → Nat → Option (List (Pass × Array ByteArray))
  | [], _ => some []
  | p :: more, start => do
    let size := h.rowSize p
    let count := h.rowCount p
    let reach := max 1 (h.color.samples * h.depth / 8)
    let rows ← restoreRows? raw size reach count start ByteArray.empty
    let others ← restorePasses? raw h more (start + count * (size + 1))
    return (p, rows.toArray) :: others

/-- The sample with a number in a row. -/
def sampleAt (row : ByteArray) (depth i : Nat) : Nat :=
  if depth = 16 then bigAt row (2 * i) 2
  else bitField (byteAt row (i * depth / 8)) (8 - depth - i * depth % 8) depth

/-- The samples of a pixel, from the pass that holds it. -/
def samplesAt (h : Header) (passes : List (Pass × Array ByteArray)) (x y : Nat) : List Nat :=
  match passes.find? fun (p, _) =>
      p.x ≤ x ∧ p.y ≤ y ∧ (x - p.x) % p.stepX = 0 ∧ (y - p.y) % p.stepY = 0 with
  | some (p, rows) =>
    let row := rows.getD ((y - p.y) / p.stepY) ByteArray.empty
    let first := (x - p.x) / p.stepX * h.color.samples
    (List.range h.color.samples).map fun k => sampleAt row h.depth (first + k)
  | none => []

end MeterSight.Png
