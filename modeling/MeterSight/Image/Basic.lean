/-!
# Images

An image is a rectangle of pixels. Everything about it is said through `pixel`, which gives the
pixel of a column and a row; outside of the image it gives the default pixel.
-/
namespace MeterSight

/-- A rectangle of pixels, stored row by row. -/
structure Image (α : Type) where
  width : Nat
  height : Nat
  pixels : Array α
  size_eq : pixels.size = width * height
  deriving DecidableEq

/-- An opaque or transparent color. -/
structure Rgba where
  red : UInt8
  green : UInt8
  blue : UInt8
  alpha : UInt8
  deriving DecidableEq, Repr, Inhabited

abbrev GrayImage := Image UInt8
abbrev RgbaImage := Image Rgba

namespace Image
variable {α β : Type}

theorem index_lt {w h x y : Nat} (hx : x < w) (hy : y < h) : y * w + x < w * h := by
  calc y * w + x < y * w + w := by omega
    _ = (y + 1) * w := by rw [Nat.succ_mul]
    _ ≤ h * w := Nat.mul_le_mul_right w hy
    _ = w * h := Nat.mul_comm h w

/-- The pixel of a column and a row. -/
def pixel [Inhabited α] (img : Image α) (x y : Nat) : α :=
  if h : x < img.width ∧ y < img.height then
    have := img.size_eq ▸ index_lt h.1 h.2
    img.pixels[y * img.width + x]
  else default

/-- The image of a given size with the pixels that a function of column and row gives. -/
def ofFn (width height : Nat) (f : Nat → Nat → α) : Image α where
  width := width
  height := height
  pixels := Array.ofFn fun i : Fin (width * height) => f (i % width) (i / width)
  size_eq := Array.size_ofFn

/-- An image of one color. -/
def filled (width height : Nat) (c : α) : Image α := ofFn width height fun _ _ => c

/-- Changes every pixel by itself. -/
def map (f : α → β) (img : Image α) : Image β where
  width := img.width
  height := img.height
  pixels := img.pixels.map f
  size_eq := by rw [Array.size_map, img.size_eq]

/-- An image without pixels. -/
def IsEmpty (img : Image α) : Prop := img.width = 0 ∨ img.height = 0

instance (img : Image α) : Decidable img.IsEmpty := inferInstanceAs (Decidable (_ ∨ _))

@[simp] theorem width_ofFn (w h : Nat) (f : Nat → Nat → α) : (ofFn w h f).width = w := rfl

@[simp] theorem height_ofFn (w h : Nat) (f : Nat → Nat → α) : (ofFn w h f).height = h := rfl

@[simp] theorem width_map (f : α → β) (img : Image α) : (img.map f).width = img.width := rfl

@[simp] theorem height_map (f : α → β) (img : Image α) : (img.map f).height = img.height := rfl

theorem pixel_ofFn [Inhabited α] {w h x y : Nat} (f : Nat → Nat → α) (hx : x < w) (hy : y < h) :
    (ofFn w h f).pixel x y = f x y := by
  simp only [pixel, width_ofFn, height_ofFn, hx, hy, and_self, ↓reduceDIte]
  simp only [ofFn, Array.getElem_ofFn]
  have col : (y * w + x) % w = x := by rw [Nat.mul_comm, Nat.mul_add_mod, Nat.mod_eq_of_lt hx]
  have row : (y * w + x) / w = y := by
    rw [Nat.mul_comm, Nat.mul_add_div (by omega), Nat.div_eq_of_lt hx, Nat.add_zero]
  rw [col, row]

theorem pixel_map [Inhabited α] [Inhabited β] (f : α → β) (img : Image α) {x y : Nat}
    (hx : x < img.width) (hy : y < img.height) : (img.map f).pixel x y = f (img.pixel x y) := by
  simp [pixel, hx, hy, map]

theorem pixel_of_outside [Inhabited α] (img : Image α) {x y : Nat}
    (h : ¬ (x < img.width ∧ y < img.height)) : img.pixel x y = default := by
  simp only [pixel, h, ↓reduceDIte]

/-- Two images of one size with the same pixels are the same. -/
theorem ext_pixel [Inhabited α] {a b : Image α} (hw : a.width = b.width) (hh : a.height = b.height)
    (h : ∀ x y, x < a.width → y < a.height → a.pixel x y = b.pixel x y) : a = b := by
  obtain ⟨w, hgt, p, hp⟩ := a
  obtain ⟨w', hgt', q, hq⟩ := b
  obtain rfl : w = w' := hw
  obtain rfl : hgt = hgt' := hh
  suffices p = q by subst this; rfl
  refine Array.ext (hp.trans hq.symm) fun i h₁ h₂ => ?_
  have inside : i < w * hgt := hp ▸ h₁
  have positive : 0 < w := Nat.pos_of_ne_zero fun e => by simp [e] at inside
  have col : i % w < w := Nat.mod_lt _ positive
  have row : i / w < hgt := Nat.div_lt_of_lt_mul inside
  have same := h (i % w) (i / w) col row
  simp only [pixel, col, row, and_self, ↓reduceDIte] at same
  have back : i / w * w + i % w = i := by rw [Nat.mul_comm]; exact Nat.div_add_mod i w
  simpa only [back] using same

end Image
end MeterSight
