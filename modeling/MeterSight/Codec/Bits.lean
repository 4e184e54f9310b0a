import MeterSight.Codec.Bytes

/-!
# Rows of bits

Bytes taken as a row of bits, the lowest of each byte first. The bytes may have come in pieces;
where a piece ends can be asked for.
-/
namespace MeterSight.Codec

/-- Why bits cannot be read. -/
inductive BitFault where
  /-- There are no more. -/
  | ended
  /-- They mean nothing. -/
  | broken
  deriving DecidableEq, Repr

/-- A row of bits. -/
structure Bits where
  data : ByteArray
  /-- How many may be read. -/
  size : Nat
  /-- Where the pieces end, in ascending order. -/
  ends : List Nat

namespace Bits

/-- Where pieces of bytes end, as a row of bits that begins at a position. -/
def endsFrom : Nat → List ByteArray → List Nat
  | _, [] => []
  | start, piece :: more =>
    let stop := start + 8 * piece.size
    stop :: endsFrom stop more

/-- The bits of all pieces. -/
def ofPieces (pieces : List ByteArray) : Bits :=
  let data := pieces.foldl (· ++ ·) ByteArray.empty
  ⟨data, 8 * data.size, endsFrom 0 pieces⟩

/-- The bits up to the end of the piece that a position lies in. -/
def throughPiece (b : Bits) (position : Nat) : Bits :=
  { b with size := (b.ends.find? (position ≤ ·)).getD b.size }

/-- So many bits are left behind a position. -/
def Has (b : Bits) (position n : Nat) : Prop := position + n ≤ b.size

instance (b : Bits) (position n : Nat) : Decidable (b.Has position n) :=
  inferInstanceAs (Decidable (_ ≤ _))

/-- The bit at a position. -/
def bitAt (b : Bits) (i : Nat) : Nat := byteAt b.data (i / 8) >>> (i % 8) % 2

/-- The number in `n` bits, the lowest first. -/
def numberAt (b : Bits) (start n : Nat) : Nat :=
  (List.range n).foldr (fun i v => 2 * v + b.bitAt (start + i)) 0

/-- Reads the number in `n` bits. -/
def number (b : Bits) (start n : Nat) : Except BitFault (Nat × Nat) :=
  if b.Has start n then .ok (b.numberAt start n, start + n) else .error .ended

end Bits
end MeterSight.Codec
