import MeterSight.Image.Basic
import MeterSight.Rect

/-!
# Color, gray and parts of images
-/
namespace MeterSight

namespace Rgba

/-- Opaque gray. -/
def gray (v : UInt8) : Rgba := ⟨v, v, v, 255⟩

/-- The brightness of a color, whatever its alpha. -/
def luma (c : Rgba) : UInt8 :=
  UInt8.ofNat ((2126 * c.red.toNat + 7152 * c.green.toNat + 722 * c.blue.toNat) / 10000)

theorem toNat_luma (c : Rgba) :
    c.luma.toNat = (2126 * c.red.toNat + 7152 * c.green.toNat + 722 * c.blue.toNat) / 10000 := by
  have := c.red.toNat_lt
  have := c.green.toNat_lt
  have := c.blue.toNat_lt
  simp only [luma, UInt8.toNat_ofNat']
  omega

@[simp] theorem luma_gray (v : UInt8) : (gray v).luma = v := by
  apply UInt8.toNat_inj.1
  rw [toNat_luma]
  simp only [gray]
  omega

end Rgba

namespace Image
variable {α : Type}

/-- The brightness of every pixel. -/
def toGray (img : RgbaImage) : GrayImage := img.map Rgba.luma

/-- Every gray level as an opaque color. -/
def toRgba (img : GrayImage) : RgbaImage := img.map Rgba.gray

/-- The part of an image inside a rectangle. -/
def crop [Inhabited α] (img : Image α) (r : Rect) : Image α :=
  let r := r.clip img.width img.height
  ofFn r.width r.height fun x y => img.pixel (r.left + x) (r.top + y)

theorem pixel_crop [Inhabited α] (img : Image α) {r : Rect} {x y : Nat} (hx : x < r.width)
    (hy : y < r.height) (insideX : r.left + x < img.width) (insideY : r.top + y < img.height) :
    (img.crop r).pixel x y = img.pixel (r.left + x) (r.top + y) := by
  have left : min r.left img.width = r.left := by omega
  have top : min r.top img.height = r.top := by omega
  simp only [crop, Rect.clip, left, top]
  exact pixel_ofFn _ (by omega) (by omega)

theorem width_crop [Inhabited α] (img : Image α) {r : Rect} (h : r.left + r.width ≤ img.width) :
    (img.crop r).width = r.width := by
  simp only [crop, Rect.clip, width_ofFn]
  omega

theorem height_crop [Inhabited α] (img : Image α) {r : Rect} (h : r.top + r.height ≤ img.height) :
    (img.crop r).height = r.height := by
  simp only [crop, Rect.clip, height_ofFn]
  omega

/-- What an image shows outside of a rectangle does not matter for the part inside. -/
theorem crop_eq_crop [Inhabited α] {img img' : Image α} {r r' : Rect} (width : r.width = r'.width)
    (height : r.height = r'.height)
    (inside : r.left + r.width ≤ img.width ∧ r.top + r.height ≤ img.height)
    (inside' : r'.left + r'.width ≤ img'.width ∧ r'.top + r'.height ≤ img'.height)
    (same : ∀ x y, x < r.width → y < r.height →
      img.pixel (r.left + x) (r.top + y) = img'.pixel (r'.left + x) (r'.top + y)) :
    img.crop r = img'.crop r' := by
  have w := img.width_crop inside.1
  have h := img.height_crop inside.2
  have w' := img'.width_crop inside'.1
  have h' := img'.height_crop inside'.2
  refine ext_pixel (by omega) (by omega) fun x y hx hy => ?_
  rw [pixel_crop img (by omega) (by omega) (by omega) (by omega),
    pixel_crop img' (by omega) (by omega) (by omega) (by omega)]
  exact same x y (by omega) (by omega)

end Image
end MeterSight
