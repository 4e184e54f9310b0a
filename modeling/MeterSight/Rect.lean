/-!
# Rectangles

An axis-parallel rectangle of pixels by its left top corner and its size.
-/
namespace MeterSight

structure Rect where
  left : Nat
  top : Nat
  width : Nat
  height : Nat
  deriving DecidableEq, Repr, Inhabited

namespace Rect

/-- Without pixels. -/
def IsEmpty (r : Rect) : Prop := r.width = 0 ∨ r.height = 0

instance (r : Rect) : Decidable r.IsEmpty := inferInstanceAs (Decidable (_ ∨ _))

/-- Moves a rectangle right and down. -/
def move (r : Rect) (dx dy : Nat) : Rect := ⟨r.left + dx, r.top + dy, r.width, r.height⟩

/-- The part of a rectangle inside an image of a given size. -/
def clip (r : Rect) (width height : Nat) : Rect :=
  let left := min r.left width
  let top := min r.top height
  ⟨left, top, min r.width (width - left), min r.height (height - top)⟩

/-- The pixels of a rectangle. -/
def Contains (r : Rect) (x y : Nat) : Prop :=
  r.left ≤ x ∧ x < r.left + r.width ∧ r.top ≤ y ∧ y < r.top + r.height

end Rect
end MeterSight
