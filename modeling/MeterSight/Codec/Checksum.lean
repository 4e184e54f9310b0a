/-!
# Checksums

The remainder of the data by a polynomial of degree 32, and the pair of sums modulo a prime.
-/
namespace MeterSight.Codec

/-- One step of the division by the polynomial, lowest bit first. -/
def crcStep (c : UInt32) : UInt32 := if c &&& 1 = 1 then (c >>> 1) ^^^ 0xEDB88320 else c >>> 1

/-- Eight steps. -/
def crcByte (c : UInt32) (b : UInt8) : UInt32 :=
  crcStep (crcStep (crcStep (crcStep (crcStep (crcStep (crcStep (crcStep (c ^^^ b.toUInt32))))))))

/-- The cyclic redundancy check of 32 bits. -/
def crc32 (data : ByteArray) : UInt32 := data.foldl crcByte 0xFFFFFFFF ^^^ 0xFFFFFFFF

/-- The largest prime below 2 to the 16th. -/
def adlerModulus : Nat := 65521

/-- The sum of the bytes and the sum of these sums. -/
def adler32 (data : ByteArray) : Nat :=
  let (a, b) := data.foldl (fun (a, b) v =>
    let a := (a + v.toNat) % adlerModulus
    (a, (b + a) % adlerModulus)) (1, 0)
  b * 65536 + a

end MeterSight.Codec
