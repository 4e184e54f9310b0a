import MeterSight.Image.Basic

/-!
# Blending

Laying one color over another by its alpha, in single precision, and so one image over another.
-/
namespace MeterSight

/-- A level as a share of full. -/
def share (v : UInt8) : Float32 := Float32.ofNat v.toNat / 255

/-- A share of full as a level, rounded down. -/
def levelOf (x : Float32) : UInt8 := (255 * x).toUInt8

/-- The color that shows when `top` lies over `ground`. -/
def Rgba.blendOver (top ground : Rgba) : Rgba :=
  if top.alpha = 0 then ground
  else if top.alpha = 255 then top
  else
    let topAlpha := share top.alpha
    let groundAlpha := share ground.alpha
    let alpha := groundAlpha + topAlpha - groundAlpha * topAlpha
    let mix (t g : UInt8) : UInt8 :=
      levelOf ((share t * topAlpha + share g * groundAlpha * (1 - topAlpha)) / alpha)
    ⟨mix top.red ground.red, mix top.green ground.green, mix top.blue ground.blue, levelOf alpha⟩

theorem Rgba.blendOver_opaque {top : Rgba} (h : top.alpha = 255) (ground : Rgba) :
    top.blendOver ground = top := by
  simp [blendOver, h]

theorem Rgba.blendOver_transparent {top : Rgba} (h : top.alpha = 0) (ground : Rgba) :
    top.blendOver ground = ground := by
  simp [blendOver, h]

/-- The image with another one over it, whose corner lies in a row of the left edge. What reaches
beyond the image is cut off. -/
def Image.layOver (ground img : RgbaImage) (row : Nat) : RgbaImage :=
  ofFn ground.width ground.height fun x y =>
    if x < img.width ∧ row ≤ y ∧ y < row + img.height then
      (img.pixel x (y - row)).blendOver (ground.pixel x y)
    else ground.pixel x y

namespace Image

@[simp] theorem width_layOver (ground img : RgbaImage) (row : Nat) :
    (ground.layOver img row).width = ground.width := rfl

@[simp] theorem height_layOver (ground img : RgbaImage) (row : Nat) :
    (ground.layOver img row).height = ground.height := rfl

theorem pixel_layOver (ground img : RgbaImage) (row : Nat) {x y : Nat} (hx : x < ground.width)
    (hy : y < ground.height) :
    (ground.layOver img row).pixel x y =
      if x < img.width ∧ row ≤ y ∧ y < row + img.height then
        (img.pixel x (y - row)).blendOver (ground.pixel x y)
      else ground.pixel x y :=
  pixel_ofFn _ hx hy

end Image
end MeterSight
