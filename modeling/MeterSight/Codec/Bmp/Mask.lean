import MeterSight.Codec.Bytes

/-!
# Masks of BMP pixels

Which bits of a stored number hold a color. A color of fewer than eight bits stands for the level
nearest to its share of full brightness; of more than eight bits the highest eight count.
-/
namespace MeterSight.Bmp
open Codec

/-- A row of bits in a number. -/
structure Mask where
  shift : Nat
  bits : Nat
  deriving DecidableEq, Repr

namespace Mask

/-- No bits at all. -/
def none : Mask := ⟨0, 0⟩

/-- The mask with the ones of a number, if they stand together among its lowest `size` bits. -/
def ofNat? (size v : Nat) : Option Mask :=
  let shift := ((List.range 32).find? fun i => v.testBit i).getD 0
  let bits := ((List.range 33).find? fun i => ¬ v.testBit (shift + i)).getD 32
  if v = allOnes bits <<< shift ∧ (v = 0 ∨ shift + bits ≤ size) then
    some (if 8 < bits then ⟨shift + (bits - 8), 8⟩ else ⟨shift, bits⟩)
  else Option.none

/-- The level of a color in a stored number. -/
def level (m : Mask) (stored : Nat) : UInt8 :=
  let full := allOnes m.bits
  UInt8.ofNat ((2 * 255 * bitField stored m.shift m.bits + full) / (2 * full))

end Mask
end MeterSight.Bmp
