import MeterSight.Image.Basic

/-!
# Resizing

Gray images are resampled in single precision, first along the columns and then along the rows. An
output position gathers the input positions under a kernel that is widened when shrinking, each
with its share of the kernel.
-/
namespace MeterSight

/-- A weight function and the distance beyond which it is not looked at. -/
structure Kernel where
  support : Float32
  weight : Float32 → Float32

/-- Takes the position under the center alone. -/
def Kernel.nearest : Kernel := ⟨0, fun _ => 1⟩

/-- Falls off linearly over one position. -/
def Kernel.triangle : Kernel where
  support := 1
  weight x :=
    let distance := if x < 0 then -x else x
    if distance < 1 then 1 - distance else 0

/-- A position rounded down, and zero if negative. -/
def floorIndex (x : Float32) : Nat := x.toUInt64.toNat

/-- A position rounded up, and zero if negative. -/
def ceilIndex (x : Float32) : Nat :=
  let below := floorIndex x
  if Float32.ofNat below < x then below + 1 else below

/-- Input positions from `first` on, and their weights. -/
structure Taps where
  first : Nat
  weights : List Float32

/-- The input positions under the kernel around output position `o`, when `n` positions become
`m`. The weights sum up to one. -/
def Kernel.taps (kernel : Kernel) (n m o : Nat) : Taps :=
  let ratio := Float32.ofNat n / Float32.ofNat m
  let scale := if ratio < 1 then 1 else ratio
  let center := (Float32.ofNat o + 0.5) * ratio
  let reach := kernel.support * scale
  let first := min (floorIndex (center - reach)) (n - 1)
  let last := max (first + 1) (min (ceilIndex (center + reach)) n)
  let raw := (List.range (last - first)).map fun i =>
    kernel.weight ((Float32.ofNat (first + i) - (center - 0.5)) / scale)
  let total := raw.foldl (· + ·) 0
  ⟨first, raw.map (· / total)⟩

/-- The weighted sum of the values from the first position on, in order. -/
def Taps.gather (t : Taps) (value : Nat → Float32) : Float32 :=
  go t.first t.weights 0
where
  go (i : Nat) : List Float32 → Float32 → Float32
    | [], sum => sum
    | w :: rest, sum => go (i + 1) rest (sum + value i * w)

/-- The nearest gray level, the upper one of two as near. -/
def roundToLevel (x : Float32) : UInt8 :=
  if x < 0 then 0
  else if 255 < x then 255
  else
    let level := x.toUInt8
    if 0.5 ≤ x - Float32.ofNat level.toNat then level + 1 else level

namespace Image

/-- Resamples along the columns, without rounding. -/
def resampleColumns (kernel : Kernel) (height : Nat) (img : GrayImage) : Image Float32 :=
  let taps := Array.ofFn fun y : Fin height => kernel.taps img.height height y
  ofFn img.width height fun x y =>
    (taps.getD y ⟨0, []⟩).gather fun i => Float32.ofNat (img.pixel x i).toNat

/-- Resamples along the rows and rounds to gray levels. -/
def resampleRows (kernel : Kernel) (width : Nat) (img : Image Float32) : GrayImage :=
  let taps := Array.ofFn fun x : Fin width => kernel.taps img.width width x
  ofFn width img.height fun x y =>
    roundToLevel ((taps.getD x ⟨0, []⟩).gather fun i => img.pixel i y)

/-- An image of the given size; itself if it has that size already. -/
def resize (kernel : Kernel) (width height : Nat) (img : GrayImage) : GrayImage :=
  if width = img.width ∧ height = img.height then img
  else resampleRows kernel width (resampleColumns kernel height img)

@[simp] theorem width_resize (kernel : Kernel) (w h : Nat) (img : GrayImage) :
    (resize kernel w h img).width = w := by
  unfold resize
  split
  · next same => exact same.1.symm
  · rfl

@[simp] theorem height_resize (kernel : Kernel) (w h : Nat) (img : GrayImage) :
    (resize kernel w h img).height = h := by
  unfold resize
  split
  · next same => exact same.2.symm
  · rfl

end Image
end MeterSight
