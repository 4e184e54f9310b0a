import MeterSight.Codec.Bytes

/-!
# The packed rows of BMP pictures

Packed rows are a row of steps: runs of one or two colors, single colors one after the other, moves
that pass over pixels, and the ends of a row and of the picture. What no step has set stays empty.

A run of whole bytes may reach beyond its row, which cuts it off; anything else that leaves the
picture makes it unreadable. Moves down keep the count of the pixels so far, cut off or not.
-/
namespace MeterSight.Bmp
open Codec

/-- Pixels from left to right, each a number into the palette or empty. -/
abbrev IndexRow := Array (Option Nat)

/-- The pixels that steps have set. -/
structure Canvas where
  width : Nat
  height : Nat
  /-- The rows that are done, in the order of the file. -/
  done : Array IndexRow
  /-- The row that is being set. -/
  row : IndexRow
  /-- How many pixels the steps in this row were about. -/
  count : Nat

namespace Canvas

def ofSize (width height : Nat) : Canvas := ⟨width, height, #[], #[], 0⟩

/-- Goes on to the next row. -/
def endRow (c : Canvas) : Canvas := { c with done := c.done.push c.row, row := #[], count := 0 }

/-- Sets pixels that must fit into the row. -/
def append? (c : Canvas) (pixels : List (Option Nat)) : Option Canvas :=
  if c.width < c.row.size + pixels.length then none
  else some { c with row := c.row ++ pixels.toArray, count := c.count + pixels.length }

/-- Sets a run of one color as far as it fits. -/
def appendRun (c : Canvas) (n index : Nat) : Canvas :=
  { c with
    row := c.row ++ Array.replicate (min n (c.width - c.row.size)) (some index)
    count := c.count + n }

/-- Passes over pixels to the right and rows down. -/
def move? (c : Canvas) (right down : Nat) : Option Canvas :=
  if down = 0 then c.append? (List.replicate right none)
  else if c.height ≤ c.done.size + down then none
  else
    let empty := (List.range (down - 1)).foldl (fun c _ => c.endRow) c.endRow
    empty.append? (List.replicate (c.count + right) none)

end Canvas

/-- How many bits a number into the palette has in packed rows. -/
inductive IndexSize where
  | four
  | eight
  deriving DecidableEq, Repr

namespace IndexSize

/-- The numbers in so many bytes. -/
def split (size : IndexSize) (bytes : List Nat) : List Nat :=
  match size with
  | four => bytes.flatMap fun v => [v / 16, v % 16]
  | eight => bytes

/-- The bytes of so many numbers. -/
def bytes (size : IndexSize) (n : Nat) : Nat :=
  match size with
  | four => (n + 1) / 2
  | eight => n

/-- Sets a run of the colors in a byte, one after the other. -/
def run? (size : IndexSize) (c : Canvas) (n v : Nat) : Option Canvas :=
  match size with
  | four => c.append? ((size.split (List.replicate n v)).take n |>.map some)
  | eight => some (c.appendRun n v)

end IndexSize

/-- Takes steps from a position on until all rows are done. -/
def Canvas.steps? (file : ByteArray) (size : IndexSize) :
    Nat → Nat → Canvas → Option (Array IndexRow)
  | 0, _, _ => none
  | fuel + 1, start, c =>
    if c.height ≤ c.done.size then some c.done
    else if file.size < start + 2 then none
    else
      let first := byteAt file start
      let second := byteAt file (start + 1)
      if first ≠ 0 then do steps? file size fuel (start + 2) (← size.run? c first second)
      else if second = 0 then steps? file size fuel (start + 2) c.endRow
      else if second = 1 then some c.endRow.done
      else if second = 2 then
        if file.size < start + 4 then none
        else do
          let c ← c.move? (byteAt file (start + 2)) (byteAt file (start + 3))
          steps? file size fuel (start + 4) c
      else
        let used := size.bytes second
        let stop := start + 2 + (used + used % 2)
        if file.size < stop then none
        else do
          let bytes := (List.range used).map fun i => byteAt file (start + 2 + i)
          let c ← c.append? (((size.split bytes).take second).map some)
          steps? file size fuel stop c

/-- The rows that are packed from a position on. Rows and pixels that are missing are empty. -/
def unpackRows? (file : ByteArray) (size : IndexSize) (start width height : Nat) :
    Option (Array IndexRow) :=
  Canvas.steps? file size (file.size + 1) start (.ofSize width height)

end MeterSight.Bmp
