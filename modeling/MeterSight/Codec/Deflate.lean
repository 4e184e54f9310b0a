import MeterSight.Codec.Bytes
import MeterSight.Codec.Checksum

/-!
# Packing without saving

Data in blocks that hold bytes as they are, with the head and the checksum that packed data has.
-/
namespace MeterSight.Codec

/-- The most bytes in a block that holds them as they are. -/
def storedLimit : Nat := 65535

/-- Blocks that hold bytes as they are. -/
def storedBlocks (data : ByteArray) : Nat → Nat → List ByteArray
  | 0, _ => []
  | fuel + 1, start =>
    let stop := min (start + storedLimit) data.size
    let head := (if stop = data.size then 1 else 0) :: littleBytes 2 (stop - start) ++
      littleBytes 2 (storedLimit - (stop - start))
    (ofBytes head ++ data.extract start stop) ::
      (if stop = data.size then [] else storedBlocks data fuel stop)

/-- Packs data without making it smaller. -/
def deflate (data : ByteArray) : ByteArray :=
  (storedBlocks data (data.size / storedLimit + 1) 0).foldl (· ++ ·) (ofBytes [0x78, 0x01]) ++
    ofBytes (bigBytes 4 (adler32 data))

end MeterSight.Codec
