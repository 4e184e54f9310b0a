import MeterSight.Codec.Deflate
import MeterSight.Codec.Inflate
import MeterSight.Codec.Png.Row
import MeterSight.Image.Color

/-!
# PNG pictures

Reading takes all depths and kinds of color, with palettes, transparent colors and passes. Writing
has one form: eight bits for each color and for alpha, no prediction and no saving.
-/
namespace MeterSight.Png
open Codec

/-- A sample as a level of eight bits. -/
def levelOf (depth v : Nat) : UInt8 :=
  UInt8.ofNat (if depth = 16 then (v + 128) / 257 else v * 255 / allOnes depth)

/-- The color of an entry of the palette, black beyond its end. Alphas for more entries than there
are do not count. -/
def Preamble.entry (p : Preamble) (v : Nat) : Rgba :=
  let palette := p.palette.getD ByteArray.empty
  let alphas := p.transparency.getD []
  let part (k : Nat) : UInt8 := UInt8.ofNat (byteAt palette (3 * v + k))
  let alpha := if alphas.length ≤ palette.size / 3 then alphas.getD v 255 else 255
  ⟨part 0, part 1, part 2, UInt8.ofNat alpha⟩

/-- The color of a pixel with given samples. -/
def Preamble.color (p : Preamble) (samples : List Nat) : Rgba :=
  let level := levelOf p.header.depth
  let alpha := if p.transparency = some samples then 0 else 255
  match p.header.color, samples with
  | .gray, [v] => { Rgba.gray (level v) with alpha := alpha }
  | .color, [r, g, b] => ⟨level r, level g, level b, alpha⟩
  | .palette, [v] => p.entry v
  | .grayAlpha, [v, a] => { Rgba.gray (level v) with alpha := level a }
  | .colorAlpha, [r, g, b, a] => ⟨level r, level g, level b, level a⟩
  | _, _ => default

/-- The bytes of a pixel once it has levels of at least eight bits, and alpha if any pixel has. -/
def Preamble.pixelSize (p : Preamble) : Nat :=
  let levels := if p.header.color = .palette then 3 else p.header.color.samples
  let samples := if p.transparency.isSome then levels + 1 else levels
  if p.header.depth = 16 then 2 * samples else samples

/-- Reads a picture. -/
def decode? (file : ByteArray) : Option RgbaImage := do
  let (p, pieces) ← parts? file
  let h := p.header
  if (h.color = .palette ∧ p.palette.isNone) ∨ roomLimit < h.width * h.height * p.pixelSize then
    none
  else
    let raw ← inflate? h.rawSize h.mostRaw pieces
    let passes ← restorePasses? raw h h.passes 0
    some (Image.ofFn h.width h.height fun x y => p.color (samplesAt h passes x y))

theorem Preamble.pixelSize_pos (p : Preamble) : 0 < p.pixelSize := by
  have samples : 0 < p.header.color.samples := by cases p.header.color <;> decide
  simp only [pixelSize]
  repeat' split
  all_goals omega

theorem side_le_of_decode? {file : ByteArray} {img : RgbaImage} (h : decode? file = some img) :
    img.width ≤ roomLimit ∧ img.height ≤ roomLimit := by
  obtain ⟨⟨p, pieces⟩, -, h⟩ := Option.bind_eq_some_iff.1 h
  dsimp only at h
  split at h
  · cases h
  · next fits =>
    obtain ⟨-, room⟩ := not_or.1 fits
    obtain ⟨raw, -, h⟩ := Option.bind_eq_some_iff.1 h
    obtain ⟨passes, -, h⟩ := Option.bind_eq_some_iff.1 h
    have some : ¬ (p.header.width = 0 ∨ p.header.height = 0) := by
      have := p.header.width_pos
      have := p.header.height_pos
      omega
    exact Option.some.inj h ▸ le_roomLimit some p.pixelSize_pos (Nat.not_lt.1 room)

/-- The samples of an image, row by row, none of them predicted. -/
def rawRows (img : RgbaImage) : ByteArray :=
  (List.range img.height).foldl (fun raw y =>
    (List.range img.width).foldl (fun raw x =>
      let c := img.pixel x y
      (((raw.push c.red).push c.green).push c.blue).push c.alpha) (raw.push 0)) ByteArray.empty

/-- Writes a picture with eight bits for each color and for alpha. -/
def encode (img : RgbaImage) : ByteArray :=
  let head := bigBytes 4 img.width ++ bigBytes 4 img.height ++ [8, 6, 0, 0, 0]
  ofBytes signature ++ Chunk.toBytes ['I', 'H', 'D', 'R'] (ofBytes head) ++
    Chunk.toBytes ['I', 'D', 'A', 'T'] (deflate (rawRows img)) ++
    Chunk.toBytes ['I', 'E', 'N', 'D'] ByteArray.empty

end MeterSight.Png
