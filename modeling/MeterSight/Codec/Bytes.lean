/-!
# Numbers in bytes

Reading and writing numbers of several bytes, the most or the least significant byte first. Beyond
the end of the data all bytes are zero.
-/
namespace MeterSight.Codec

/-- The byte at a position. -/
def byteAt (data : ByteArray) (i : Nat) : Nat := if h : i < data.size then data[i].toNat else 0

/-- The number in `n` bytes, the most significant first. -/
def bigAt (data : ByteArray) (start n : Nat) : Nat :=
  (List.range n).foldl (fun v i => v * 256 + byteAt data (start + i)) 0

/-- The number in `n` bytes, the least significant first. -/
def littleAt (data : ByteArray) (start n : Nat) : Nat :=
  (List.range n).foldr (fun i v => v * 256 + byteAt data (start + i)) 0

/-- The largest number of `n` bits. -/
def allOnes (n : Nat) : Nat := 1 <<< n - 1

/-- The lowest `n` bits of a number without its lowest `shift`. -/
def bitField (v shift n : Nat) : Nat := (v >>> shift) % (1 <<< n)

/-- The low `n` bytes of a number, the least significant first. -/
def littleBytes : Nat → Nat → List UInt8
  | 0, _ => []
  | n + 1, v => UInt8.ofNat (v % 256) :: littleBytes n (v / 256)

/-- The low `n` bytes of a number, the most significant first. -/
def bigBytes (n v : Nat) : List UInt8 := (littleBytes n v).reverse

@[simp] theorem length_littleBytes (n v : Nat) : (littleBytes n v).length = n := by
  induction n generalizing v with
  | zero => rfl
  | succ n ih => simp [littleBytes, ih]

/-- The most bytes for all pixels of a picture that is read. -/
def roomLimit : Nat := 0x20000000

/-- Pixels that fit are no more than that in any direction. -/
theorem le_roomLimit {width height bytes : Nat} (some : ¬ (width = 0 ∨ height = 0))
    (each : 0 < bytes) (fits : width * height * bytes ≤ roomLimit) :
    width ≤ roomLimit ∧ height ≤ roomLimit := by
  have pixels : width * height ≤ roomLimit := Nat.le_trans (Nat.le_mul_of_pos_right _ each) fits
  exact ⟨Nat.le_trans (Nat.le_mul_of_pos_right _ (by omega)) pixels,
    Nat.le_trans (Nat.le_mul_of_pos_left _ (by omega)) pixels⟩

/-- A list as an array of bytes. -/
def ofBytes (bytes : List UInt8) : ByteArray := ⟨bytes.toArray⟩

end MeterSight.Codec
