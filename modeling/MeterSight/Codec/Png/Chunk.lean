import MeterSight.Codec.Bytes
import MeterSight.Codec.Checksum

/-!
# The chunks of a PNG picture

A file is a signature and a row of chunks, each with a size, a name of four letters, its data and a
checksum. The first is the header. Those before the image data say how to take it; the image data
is a run of chunks of one name. Nothing is asked of the file behind this run, except that another
chunk begins.

A chunk whose name begins with a small letter can be done without: where it is damaged it is passed
over. The chunks of an animation are stricter than that.
-/
namespace MeterSight.Png
open Codec

/-- The first bytes of each file. -/
def signature : List UInt8 := [0x89, 0x50, 0x4E, 0x47, 0x0D, 0x0A, 0x1A, 0x0A]

/-- A part of a file. -/
structure Chunk where
  name : List Char
  data : ByteArray
  /-- The checksum agrees. -/
  isSound : Bool

namespace Chunk

/-- The bytes of a chunk around its data. -/
def frameSize : Nat := 12

/-- The bytes that tell the size and the name. -/
def headSize : Nat := 8

/-- The bytes that stand for a name. -/
def nameBytes (name : List Char) : List UInt8 := name.map fun c => UInt8.ofNat c.toNat

/-- The name of the chunk at a position. -/
def nameAt (file : ByteArray) (start : Nat) : List Char :=
  (List.range 4).map fun i => Char.ofNat (byteAt file (start + 4 + i))

/-- The chunk at a position, if the file holds all of it. -/
def at? (file : ByteArray) (start : Nat) : Option Chunk :=
  let size := bigAt file start 4
  if file.size < start + frameSize + size then none
  else
    let named := file.extract (start + 4) (start + headSize + size)
    some ⟨nameAt file start, file.extract (start + headSize) (start + headSize + size),
      (crc32 named).toNat = bigAt file (start + headSize + size) 4⟩

/-- The position behind a chunk. -/
def stop (c : Chunk) (start : Nat) : Nat := start + frameSize + c.data.size

/-- Cannot be done without. -/
def IsCritical (c : Chunk) : Prop := ¬ (c.name.headD 'a').toNat.testBit 5

instance (c : Chunk) : Decidable c.IsCritical := inferInstanceAs (Decidable (¬ _))

/-- The fewest and the most bytes of the data of the chunks that are taken in. -/
def sizeRange (name : List Char) : Option (Nat × Nat) :=
  if name = ['P', 'L', 'T', 'E'] then some (3, 768)
  else if name = ['t', 'R', 'N', 'S'] then some (1, 256)
  else if name = ['b', 'K', 'G', 'D'] then some (1, 6)
  else if name = ['c', 'I', 'C', 'P'] then some (4, 4)
  else if name = ['f', 'c', 'T', 'L'] then some (26, 26)
  else none

/-- Has no more and no less data than a chunk of its name may have. -/
def HasFittingSize (c : Chunk) : Prop :=
  ∀ range ∈ sizeRange c.name, range.1 ≤ c.data.size ∧ c.data.size ≤ range.2

instance (c : Chunk) : Decidable c.HasFittingSize :=
  inferInstanceAs (Decidable (∀ range ∈ sizeRange c.name, _))

/-- A chunk with its size and its checksum. -/
def toBytes (name : List Char) (data : ByteArray) : ByteArray :=
  let named := ofBytes (nameBytes name) ++ data
  ofBytes (bigBytes 4 data.size) ++ named ++ ofBytes (bigBytes 4 (crc32 named).toNat)

end Chunk

/-- What the samples of a pixel mean. -/
inductive ColorType where
  | gray
  | color
  | palette
  | grayAlpha
  | colorAlpha
  deriving DecidableEq, Repr

/-- How many samples a pixel has. -/
def ColorType.samples : ColorType → Nat
  | gray | palette => 1
  | grayAlpha => 2
  | color => 3
  | colorAlpha => 4

/-- The color type with a number, if samples may have so many bits in it. -/
def colorType? (number depth : Nat) : Option ColorType :=
  match number with
  | 0 => if depth ∈ [1, 2, 4, 8, 16] then some .gray else none
  | 2 => if depth ∈ [8, 16] then some .color else none
  | 3 => if depth ∈ [1, 2, 4, 8] then some .palette else none
  | 4 => if depth ∈ [8, 16] then some .grayAlpha else none
  | 6 => if depth ∈ [8, 16] then some .colorAlpha else none
  | _ => none

structure Header where
  width : Nat
  height : Nat
  depth : Nat
  color : ColorType
  interlaced : Bool
  width_pos : 0 < width
  height_pos : 0 < height

def header? (data : ByteArray) : Option Header :=
  let width := bigAt data 0 4
  let height := bigAt data 4 4
  let depth := byteAt data 8
  if h : 0 < width ∧ 0 < height ∧ data.size = 13 ∧ byteAt data 10 = 0 ∧ byteAt data 11 = 0 ∧
      byteAt data 12 ≤ 1 then
    (colorType? (byteAt data 9) depth).map
      (⟨width, height, depth, ·, byteAt data 12 = 1, h.1, h.2.1⟩)
  else none

/-- What is said about the image data before it comes. -/
structure Preamble where
  header : Header
  palette : Option ByteArray
  /-- The alpha of each entry of the palette, or the samples of the color that is not seen. -/
  transparency : Option (List Nat)
  /-- The number of the latest frame of an animation. -/
  frame : Option Nat
  /-- How colors are coded has been told. -/
  hasCoding : Bool

namespace Preamble

/-- What is known from the header alone. -/
def ofHeader (header : Header) : Preamble := ⟨header, none, none, none, false⟩

/-- The samples of the color that is not seen, in two bytes each. Of samples with fewer bits only
the lower byte counts; of others there must be no more than needed, or all colors are seen. -/
def hiddenSamples (depth count : Nat) (data : ByteArray) : List Nat :=
  if depth < 16 then (List.range count).map fun i => byteAt data (2 * i + 1)
  else if data.size = 2 * count then (List.range count).map fun i => bigAt data (2 * i) 2
  else []

/-- Takes in a chunk about transparency. The first counts, unless it is too short or comes before
the palette it is about. -/
def noteTransparency (p : Preamble) (data : ByteArray) : Preamble :=
  let count := p.header.color.samples
  if p.transparency.isSome then p
  else
    match p.header.color with
    | .gray | .color =>
      if data.size < 2 * count then p
      else { p with transparency := some (hiddenSamples p.header.depth count data) }
    | .palette =>
      if p.palette.isNone then p
      else { p with transparency := some (data.data.toList.map UInt8.toNat) }
    | .grayAlpha | .colorAlpha => p

/-- Takes in a chunk about the background, which changes nothing that is seen but has to come
behind the palette. -/
def noteBackground? (p : Preamble) : Option Preamble :=
  if p.header.color = .palette ∧ p.palette.isNone then none else some p

/-- Takes in a chunk about how colors are coded, which changes nothing that is seen. One that comes
before the palette must be sound, unless another has come. -/
def noteCoding? (p : Preamble) (data : ByteArray) : Option Preamble :=
  if p.palette.isSome ∨ p.hasCoding then some p
  else if byteAt data 2 = 0 ∧ byteAt data 3 ≤ 1 then some { p with hasCoding := true }
  else none

/-- The number that the next frame must have. -/
def nextFrame (p : Preamble) : Nat := p.frame.elim 0 (· + 1)

/-- Takes in a chunk that describes a frame. The first frames must fill the whole picture. -/
def noteFrame? (p : Preamble) (data : ByteArray) : Option Preamble :=
  if bigAt data 0 4 = p.nextFrame ∧ bigAt data 4 4 = p.header.width ∧
      bigAt data 8 4 = p.header.height ∧ bigAt data 12 4 = 0 ∧ bigAt data 16 4 = 0 ∧
      byteAt data 24 ≤ 2 ∧ byteAt data 25 ≤ 1 then
    some { p with frame := some p.nextFrame }
  else none

/-- Takes in an undamaged chunk before the image data. -/
def noteSound? (p : Preamble) (c : Chunk) : Option Preamble :=
  if c.name = ['P', 'L', 'T', 'E'] then
    if p.palette.isNone then some { p with palette := some c.data } else none
  else if c.IsCritical then none
  else if c.name = ['t', 'R', 'N', 'S'] then some (p.noteTransparency c.data)
  else if c.name = ['b', 'K', 'G', 'D'] then p.noteBackground?
  else if c.name = ['c', 'I', 'C', 'P'] then p.noteCoding? c.data
  else if c.name = ['f', 'c', 'T', 'L'] then p.noteFrame? c.data
  else some p

/-- Takes in a chunk before the image data. The data of a frame must not come before that of the
picture, and the description of a frame must have its size even where it is damaged. -/
def note? (p : Preamble) (c : Chunk) : Option Preamble :=
  if c.name = ['f', 'd', 'A', 'T'] then none
  else if ¬ c.HasFittingSize then
    if c.IsCritical ∨ c.name = ['f', 'c', 'T', 'L'] then none else some p
  else if c.isSound then p.noteSound? c
  else if c.IsCritical then none
  else some p

end Preamble

/-- The name of the chunks of image data. -/
def dataName : List Char := ['I', 'D', 'A', 'T']

/-- The image data in a run of chunks, behind which another chunk begins. -/
def dataRun? (file : ByteArray) : Nat → Nat → Option (List ByteArray)
  | 0, _ => none
  | fuel + 1, start =>
    if file.size < start + Chunk.headSize then none
    else if Chunk.nameAt file start ≠ dataName then some []
    else do
      let c ← Chunk.at? file start
      if c.isSound then (dataRun? file fuel (c.stop start)).map (c.data :: ·) else none

/-- Takes in the chunks up to the image data, and then the image data. -/
def preambleFrom? (file : ByteArray) :
    Nat → Nat → Preamble → Option (Preamble × List ByteArray)
  | 0, _, _ => none
  | fuel + 1, start, p =>
    if Chunk.nameAt file start = dataName then (dataRun? file file.size start).map (p, ·)
    else do
      let c ← Chunk.at? file start
      preambleFrom? file fuel (c.stop start) (← p.note? c)

/-- The parts of a file that count. -/
def parts? (file : ByteArray) : Option (Preamble × List ByteArray) := do
  let c ← Chunk.at? file signature.length
  if (file.extract 0 signature.length).data.toList ≠ signature ∨ ¬ c.isSound ∨
      c.name ≠ ['I', 'H', 'D', 'R'] then none
  else
    let header ← header? c.data
    preambleFrom? file file.size (c.stop signature.length) (.ofHeader header)

end MeterSight.Png
