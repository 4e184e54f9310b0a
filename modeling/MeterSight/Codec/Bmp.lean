import MeterSight.Codec.Bmp.Mask
import MeterSight.Codec.Bmp.Run
import MeterSight.Image.Color

/-!
# BMP pictures

A picture is a file head, a picture head that says how large pixels are, perhaps masks or a
palette, and the rows, as a rule from bottom to top. Rows are packed, or plain and filled up to a
multiple of four bytes.
-/
namespace MeterSight.Bmp
open Codec

/-- A palette in a file: where it begins, the bytes of an entry, and how many there are. -/
structure Palette where
  start : Nat
  entrySize : Nat
  count : Nat

/-- What the numbers that are stored for pixels mean. -/
inductive Colors where
  | palette (p : Palette)
  /-- Red, green and blue, and alpha if there is some. -/
  | masks (red green blue : Mask) (alpha : Option Mask)

/-- How rows are stored. -/
inductive Storage where
  | plain
  | packed (size : IndexSize)

structure Header where
  width : Nat
  height : Nat
  topDown : Bool
  bitsPerPixel : Nat
  /-- Where the rows begin. -/
  rows : Nat
  storage : Storage
  colors : Colors

/-- The size of the file head. -/
def fileHeadSize : Nat := 14

/-- The size of the shortest picture head. Its palettes have no gaps. -/
def shortHeadSize : Nat := 12

/-- The sizes of the other picture heads. All begin like the first. -/
def longHeadSizes : List Nat := [40, 52, 56, 108, 124]

/-- Where masks lie, in a long picture head or behind the first of them. -/
def maskStart : Nat := fileHeadSize + 40

/-- The greatest width or height. -/
def greatestSide : Nat := 65535

/-- The masks of plain pixels without a palette. -/
def plainMasks? (bits : Nat) : Option Colors :=
  if bits = 16 then some (.masks ⟨10, 5⟩ ⟨5, 5⟩ ⟨0, 5⟩ none)
  else if bits = 24 ∨ bits = 32 then some (.masks ⟨16, 8⟩ ⟨8, 8⟩ ⟨0, 8⟩ none)
  else none

/-- The masks that a file gives; only alpha may be left out. Not all picture heads have one for
it. -/
def givenMasks? (file : ByteArray) (headSize bits : Nat) : Option Colors :=
  let count := if headSize < 56 then 3 else 4
  if file.size < maskStart + 4 * count then none
  else do
    let mask? (i : Nat) : Option Mask := Mask.ofNat? bits (littleAt file (maskStart + 4 * i) 4)
    let red ← mask? 0
    let green ← mask? 1
    let blue ← mask? 2
    let alpha ← if count = 4 then mask? 3 else some .none
    if red.bits = 0 ∨ green.bits = 0 ∨ blue.bits = 0 then none
    else some (.masks red green blue (if alpha.bits = 0 then none else some alpha))

/-- The palette behind the picture head. It must be there as a whole. -/
def palette? (file : ByteArray) (headSize entrySize bits used : Nat) : Option Colors :=
  let count := if used = 0 then 1 <<< bits else used
  let start := fileHeadSize + headSize
  if 1 <<< bits < count ∨ file.size < start + entrySize * count then none
  else some (.palette ⟨start, entrySize, count⟩)

/-- What a short picture head tells. -/
def shortHeader? (file : ByteArray) : Option Header :=
  let bits := littleAt file 24 2
  let colors? := if bits ∈ [1, 4, 8] then palette? file shortHeadSize 3 bits 0
    else if bits = 24 then plainMasks? bits
    else none
  if file.size < fileHeadSize + shortHeadSize ∨ littleAt file 22 2 ≠ 1 then none
  else colors?.map
    (⟨littleAt file 18 2, littleAt file 20 2, false, bits, littleAt file 10 4, .plain, ·⟩)

/-- How rows are stored and what they mean, by the number of a method. -/
def method? (file : ByteArray) (headSize bits method : Nat) : Option (Storage × Colors) :=
  let palette? := palette? file headSize 4 bits (littleAt file 46 4)
  if method = 0 then
    (if bits ∈ [1, 2, 4, 8] then palette? else plainMasks? bits).map (Storage.plain, ·)
  else if method = 1 ∧ bits = 8 then palette?.map (Storage.packed .eight, ·)
  else if method = 2 ∧ bits = 4 then palette?.map (Storage.packed .four, ·)
  else if method = 3 ∧ bits ∈ [16, 32] then
    (givenMasks? file headSize bits).map (Storage.plain, ·)
  else none

/-- What a long picture head tells. Only plain rows may come from top to bottom, which a negative
height tells. -/
def longHeader? (file : ByteArray) (headSize : Nat) : Option Header :=
  let height := littleAt file 22 4
  let topDown : Bool := 0x80000000 ≤ height
  let bits := littleAt file 28 2
  let method := littleAt file 30 4
  if file.size < maskStart ∨ greatestSide < littleAt file 18 4 ∨
      (greatestSide < height ∧ ¬ topDown) ∨ height = 0x80000000 ∨ littleAt file 26 2 ≠ 1 ∨
      (topDown ∧ method ∉ [0, 3]) then none
  else (method? file headSize bits method).map fun (storage, colors) =>
    ⟨littleAt file 18 4, if topDown then 0x100000000 - height else height, topDown, bits,
      littleAt file 10 4, storage, colors⟩

def header? (file : ByteArray) : Option Header :=
  let headSize := littleAt file fileHeadSize 4
  if littleAt file 0 2 ≠ 0x4D42 then none
  else if headSize = shortHeadSize then shortHeader? file
  else if headSize ∈ longHeadSizes then longHeader? file headSize
  else none

/-- The bytes of a plain row. -/
def Header.rowSize (h : Header) : Nat := (h.width * h.bitsPerPixel + 31) / 32 * 4

/-- The bytes of a pixel. -/
def Colors.samples : Colors → Nat
  | .masks _ _ _ (some _) => 4
  | _ => 3

/-- The place of a row in the file. -/
def Header.rowNumber (h : Header) (y : Nat) : Nat := if h.topDown then y else h.height - 1 - y

/-- The number that is stored for a pixel in plain rows. -/
def Header.stored (h : Header) (file : ByteArray) (x y : Nat) : Nat :=
  let start := h.rows + h.rowNumber y * h.rowSize
  if h.bitsPerPixel < 8 then
    bitField (byteAt file (start + x * h.bitsPerPixel / 8))
      (8 - h.bitsPerPixel - x * h.bitsPerPixel % 8) h.bitsPerPixel
  else littleAt file (start + x * (h.bitsPerPixel / 8)) (h.bitsPerPixel / 8)

/-- What shows where no color is told. -/
def black : Rgba := Rgba.gray 0

/-- The color of a stored number. -/
def Colors.color (file : ByteArray) (v : Nat) : Colors → Rgba
  | .palette p =>
    let part (k : Nat) : UInt8 := UInt8.ofNat (byteAt file (p.start + p.entrySize * v + k))
    if v < p.count then ⟨part 2, part 1, part 0, 255⟩ else black
  | .masks red green blue alpha =>
    ⟨red.level v, green.level v, blue.level v, alpha.elim 255 (·.level v)⟩

/-- Reads a picture. -/
def decode? (file : ByteArray) : Option RgbaImage := do
  let h ← header? file
  if (h.width = 0 ∨ h.height = 0) ∨ roomLimit < h.width * h.height * h.colors.samples then none
  else
    match h.storage with
    | .plain =>
      if file.size < h.rows + h.rowSize * h.height then none
      else some (Image.ofFn h.width h.height fun x y => h.colors.color file (h.stored file x y))
    | .packed size =>
      let rows ← unpackRows? file size h.rows h.width h.height
      some (Image.ofFn h.width h.height fun x y =>
        ((rows.getD (h.rowNumber y) #[]).getD x none).elim black (h.colors.color file))

theorem side_le_of_decode? {file : ByteArray} {img : RgbaImage} (h : decode? file = some img) :
    img.width ≤ roomLimit ∧ img.height ≤ roomLimit := by
  obtain ⟨header, -, h⟩ := Option.bind_eq_some_iff.1 h
  split at h
  · cases h
  · next fits =>
    obtain ⟨pixels, room⟩ := not_or.1 fits
    have each : 0 < header.colors.samples := by
      unfold Colors.samples
      split <;> decide
    have size := le_roomLimit pixels each (Nat.not_lt.1 room)
    split at h
    · split at h
      · cases h
      · exact Option.some.inj h ▸ size
    · obtain ⟨rows, -, h⟩ := Option.bind_eq_some_iff.1 h
      exact Option.some.inj h ▸ size

/-- The size of both heads in files that are written. -/
def headsSize : Nat := fileHeadSize + 108

/-- Writes a picture with eight bits for each color and for alpha. -/
def encode (img : RgbaImage) : ByteArray :=
  let size := 4 * img.width * img.height
  let heads := [0x42, 0x4D] ++ littleBytes 4 (headsSize + size) ++ littleBytes 4 0 ++
    littleBytes 4 headsSize ++ littleBytes 4 108 ++ littleBytes 4 img.width ++
    littleBytes 4 img.height ++ littleBytes 2 1 ++ littleBytes 2 32 ++ littleBytes 4 3 ++
    littleBytes 4 size ++ List.replicate 16 0 ++ littleBytes 4 0xFF0000 ++ littleBytes 4 0xFF00 ++
    littleBytes 4 0xFF ++ littleBytes 4 0xFF000000 ++ littleBytes 4 0x73524742 ++
    List.replicate 48 0
  (List.range img.height).foldl (fun file y =>
    (List.range img.width).foldl (fun file x =>
      let c := img.pixel x (img.height - 1 - y)
      (((file.push c.blue).push c.green).push c.red).push c.alpha) file) (ofBytes heads)

end MeterSight.Bmp
