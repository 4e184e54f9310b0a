import MeterSight.Image.Basic

/-!
# Rotation

An image is turned about its center on a canvas of its own size. Every output pixel looks back to
its place in the input and blends the four pixels around it; where one of them is missing the fill
color shows. All is computed in single precision.
-/
namespace MeterSight

/-- The map from output to input positions, as the upper two rows of a matrix. -/
structure Affine where
  xx : Float32
  xy : Float32
  x : Float32
  yx : Float32
  yy : Float32
  y : Float32

/-- First `b`, then `a`. -/
def Affine.compose (a b : Affine) : Affine where
  xx := a.xx * b.xx + a.xy * b.yx + a.x * 0
  xy := a.xx * b.xy + a.xy * b.yy + a.x * 0
  x := a.xx * b.x + a.xy * b.y + a.x * 1
  yx := a.yx * b.xx + a.yy * b.yx + a.y * 0
  yy := a.yx * b.xy + a.yy * b.yy + a.y * 0
  y := a.yx * b.x + a.yy * b.y + a.y * 1

/-- Moves by a distance. -/
def Affine.translation (dx dy : Float32) : Affine := ⟨1, 0, dx, 0, 1, dy⟩

/-- Turns about the origin. -/
def Affine.turn (theta : Float32) : Affine :=
  let s := theta.sin
  let c := theta.cos
  ⟨c, s, 0, -s, c, 0⟩

/-- Turns an image of a given size about its center. -/
def Affine.aboutCenter (width height : Nat) (theta : Float32) : Affine :=
  let cx := Float32.ofNat width / 2
  let cy := Float32.ofNat height / 2
  (translation cx cy).compose ((turn theta).compose (translation (-cx) (-cy)))

/-- Where an output pixel comes from. -/
def Affine.apply (m : Affine) (px py : Nat) : Float32 × Float32 :=
  let px := Float32.ofNat px
  let py := Float32.ofNat py
  (m.xx * px + m.xy * py + m.x, m.yx * px + m.yy * py + m.y)

/-- A weighted mean of two levels, rounded down. -/
def mixLevels (q : Float32) (a b : UInt8) : UInt8 :=
  ((1 - q) * Float32.ofNat a.toNat + q * Float32.ofNat b.toNat).toUInt8

def mixColors (q : Float32) (a b : Rgba) : Rgba :=
  ⟨mixLevels q a.red b.red, mixLevels q a.green b.green, mixLevels q a.blue b.blue,
    mixLevels q a.alpha b.alpha⟩

/-- The pixels at a position between pixels, or the fill color where one is missing. -/
def Image.sample (img : RgbaImage) (fill : Rgba) (px py : Float32) : Rgba :=
  if 0 ≤ px ∧ 0 ≤ py then
    let left := px.toUInt64.toNat
    let top := py.toUInt64.toNat
    if left + 1 < img.width ∧ top + 1 < img.height then
      let qx := px - Float32.ofNat left
      let qy := py - Float32.ofNat top
      mixColors qy (mixColors qx (img.pixel left top) (img.pixel (left + 1) top))
        (mixColors qx (img.pixel left (top + 1)) (img.pixel (left + 1) (top + 1)))
    else fill
  else fill

/-- Turns an image about its center. -/
def Image.turn (img : RgbaImage) (theta : Float32) (fill : Rgba) : RgbaImage :=
  let m := Affine.aboutCenter img.width img.height theta
  ofFn img.width img.height fun x y =>
    let (px, py) := m.apply x y
    img.sample fill px py

/-- Half a turn. -/
def pi : Float := 3.141592653589793

/-- Smaller angles, in degrees, are not worth the loss of sharpness. -/
def leastRotation : Float := 0.1

/-- Turns an image clockwise by an angle in degrees and fills with white. -/
def Image.rotate (img : RgbaImage) (degrees : Float) : RgbaImage :=
  if degrees.abs < leastRotation then img
  else img.turn (degrees * (pi / 180.0)).toFloat32 ⟨255, 255, 255, 255⟩

end MeterSight
