import MeterSight.Image.Color

/-!
# Marks

Borders of rectangles and small crosses, drawn over an image. Drawing positions are signed
integers of 32 bits, so a box far to the right or far down wraps around to the left of the image
or above it.
-/
namespace MeterSight

/-- The signed integer with the same 32 bits. -/
def signed32 (n : Int) : Int := n.bmod 0x100000000

theorem signed32_of_lt {n : Nat} (h : n < 0x80000000) : signed32 n = n := by
  simp only [signed32, Int.bmod]
  split <;> omega

/-- The corner pixels of a rectangle to draw. -/
structure Outline where
  left : Int
  top : Int
  right : Int
  bottom : Int
  deriving DecidableEq, Repr

/-- The outline of a rectangle that has pixels. -/
def Rect.outline? (r : Rect) : Option Outline :=
  if r.IsEmpty then none
  else
    let left := signed32 r.left
    let top := signed32 r.top
    some ⟨left, top, signed32 (left + signed32 r.width - 1), signed32 (top + signed32 r.height - 1)⟩

/-- Lies between two numbers given in either order. -/
def between (a b v : Int) : Bool := min a b ≤ v && v ≤ max a b

/-- The pixels of the border, one pixel wide. -/
def Outline.covers (o : Outline) (x y : Int) : Bool :=
  (between o.left o.right x && (y == o.top || y == o.bottom)) ||
    (between o.top o.bottom y && (x == o.left || x == o.right))

/-- From here on a coordinate of single precision is beyond all signed integers of 32 bits. -/
def farEnd : Int := 2147483584

/-- The four lines of the border come to an end. A line runs along the axis on which it is longer,
up to its greater end, and never gets past one that is too far. -/
def Outline.IsWithinReach (o : Outline) : Prop :=
  max o.left o.right < farEnd ∧ (max o.top o.bottom < farEnd ∨ farEnd ≤ min o.top o.bottom)

instance (o : Outline) : Decidable o.IsWithinReach := inferInstanceAs (Decidable (_ ∧ _))

/-- Something to draw. -/
inductive Mark where
  | border (o : Outline) (color : Rgba)
  /-- A pixel and its four neighbors. -/
  | cross (x y : Int) (color : Rgba)
  deriving DecidableEq, Repr

namespace Mark

def color : Mark → Rgba
  | border _ c => c
  | cross _ _ c => c

/-- The pixels that a mark colors. -/
def covers : Mark → Int → Int → Bool
  | border o _, x, y => o.covers x y
  | cross cx cy _, x, y => (x - cx).natAbs + (y - cy).natAbs ≤ 1

def IsWithinReach : Mark → Prop
  | border o _ => o.IsWithinReach
  | cross _ _ _ => True

instance : (m : Mark) → Decidable m.IsWithinReach
  | border o _ => inferInstanceAs (Decidable o.IsWithinReach)
  | cross _ _ _ => isTrue trivial

/-- The borders of those rectangles that have pixels. -/
def borders (rects : List Rect) (color : Rgba) : List Mark :=
  (rects.filterMap Rect.outline?).map (border · color)

/-- An image with the mark over it, as far as that is inside. -/
def paint (m : Mark) (img : RgbaImage) : RgbaImage :=
  .ofFn img.width img.height fun x y => if m.covers x y then m.color else img.pixel x y

end Mark
end MeterSight
