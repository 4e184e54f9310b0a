import MeterSight.Error
import MeterSight.Image.Basic

/-!
# Gamma curves

A gamma curve stretches the levels between a black point and a white point over the whole range.
-/
namespace MeterSight

structure GammaCurve where
  gamma : Float
  black : UInt8
  white : UInt8

namespace GammaCurve

/-- What a configuration leaves open. -/
def standard : GammaCurve := ⟨1.0, 50, 120⟩

/-- The gamma curve with these values, if they make one. -/
def new? (gamma : Float) (black white : UInt8) : Except ConfigError GammaCurve :=
  if 0.0 < gamma then
    if black < white then .ok ⟨gamma, black, white⟩
    else .error (.whiteNotAboveBlack white black)
  else .error (.gammaNotPositive gamma)

/-- A curve that cannot be applied. -/
def Unusable (c : GammaCurve) : Prop := c.white ≤ c.black ∨ c.gamma ≤ 0.0

instance (c : GammaCurve) : Decidable c.Unusable := inferInstanceAs (Decidable (_ ∨ _))

/-- The new level of a level. -/
def level (c : GammaCurve) (v : UInt8) : UInt8 :=
  if v ≤ c.black then 0
  else if c.white ≤ v then 255
  else
    let position := (Float.ofNat v.toNat - Float.ofNat c.black.toNat) /
      (Float.ofNat c.white.toNat - Float.ofNat c.black.toNat)
    (255.0 * position.pow (1.0 / c.gamma) + 0.5).toUInt8

end GammaCurve
end MeterSight
