import Mathlib.Algebra.Order.Ring.Int
import MeterSight.Proofs.DriftDetection

/-!
# Symmetries of edges

The two edge pictures treat both axes, both directions and both ends of the brightness alike. They
are transposes of each other, they turn with the image when it is mirrored, and they do not tell an
image from its negative. A level of an edge is less than half of the brightness, since it is the
lesser of two steps in one direction.
-/
namespace MeterSight

/-! ## Two steps in one direction -/

/-- The lesser of the steps from and to both neighbors if they lead in one direction, in whole
numbers without bounds. -/
def commonStep (before center after : Int) : Int :=
  let first := center - before
  let second := after - center
  if 0 < first * second then min |first| |second| else 0

section step
variable {before center after : Int}

theorem commonStep_of_rising (rising : before < center ∧ center < after) :
    commonStep before center after = min (center - before) (after - center) := by
  have first : 0 < center - before := by omega
  have second : 0 < after - center := by omega
  simp only [commonStep, Int.mul_pos first second, if_true, abs_of_pos first, abs_of_pos second]

/-- It does not matter from which side the levels are looked at. -/
theorem commonStep_swap (before center after : Int) :
    commonStep after center before = commonStep before center after := by
  have product : (center - after) * (before - center) = (center - before) * (after - center) := by
    grind
  simp only [commonStep, product, abs_sub_comm center after, abs_sub_comm before center,
    min_comm |after - center|]

theorem commonStep_of_falling (falling : center < before ∧ after < center) :
    commonStep before center after = min (before - center) (center - after) := by
  rw [← commonStep_swap, commonStep_of_rising ⟨falling.2, falling.1⟩, min_comm]

theorem commonStep_of_neither (rising : ¬ (before < center ∧ center < after))
    (falling : ¬ (center < before ∧ after < center)) : commonStep before center after = 0 := by
  refine if_neg fun positive => ?_
  rcases mul_pos_iff.1 positive with ⟨first, second⟩ | ⟨first, second⟩ <;> omega

/-- Nor does it matter which end of the brightness is which. -/
theorem commonStep_negative (top before center after : Int) :
    commonStep (top - before) (top - center) (top - after) = commonStep before center after := by
  have first : top - center - (top - before) = -(center - before) := by omega
  have second : top - after - (top - center) = -(after - center) := by omega
  simp only [commonStep, first, second, neg_mul_neg, abs_neg]

/-- Two steps in one direction together lead at most all the way. -/
theorem two_mul_commonStep_le {top : Int} (hb : 0 ≤ before ∧ before ≤ top)
    (ha : 0 ≤ after ∧ after ≤ top) : 2 * commonStep before center after ≤ top := by
  by_cases rising : before < center ∧ center < after
  · rw [commonStep_of_rising rising]
    omega
  by_cases falling : center < before ∧ after < center
  · rw [commonStep_of_falling falling]
    omega
  · rw [commonStep_of_neither rising falling]
    omega

end step

/-- The steps of levels are exact, as if levels had no bounds. -/
theorem toNat_twoSidedStep (before center after : UInt8) :
    ((twoSidedStep before center after).toNat : Int) =
      commonStep before.toNat center.toNat after.toNat := by
  unfold twoSidedStep
  split
  · next rising =>
    have first : before.toNat < center.toNat := rising.1
    have second : center.toNat < after.toNat := rising.2
    rw [commonStep_of_rising (by omega), toNat_min, UInt8.toNat_sub_of_le _ _ first.le,
      UInt8.toNat_sub_of_le _ _ second.le]
    omega
  split
  · next falling =>
    have first : center.toNat < before.toNat := falling.1
    have second : after.toNat < center.toNat := falling.2
    rw [commonStep_of_falling (by omega), toNat_min, UInt8.toNat_sub_of_le _ _ first.le,
      UInt8.toNat_sub_of_le _ _ second.le]
    omega
  · next notRising notFalling =>
    have rising : ¬ (before.toNat < center.toNat ∧ center.toNat < after.toNat) := notRising
    have falling : ¬ (center.toNat < before.toNat ∧ after.toNat < center.toNat) := notFalling
    rw [commonStep_of_neither (by omega) (by omega)]
    rfl

theorem twoSidedStep_eq_iff {a b c a' b' c' : UInt8} :
    twoSidedStep a b c = twoSidedStep a' b' c' ↔
      commonStep a.toNat b.toNat c.toNat = commonStep a'.toNat b'.toNat c'.toNat := by
  rw [← toNat_twoSidedStep, ← toNat_twoSidedStep, Int.ofNat_inj, UInt8.toNat_inj]

theorem twoSidedStep_swap (before center after : UInt8) :
    twoSidedStep after center before = twoSidedStep before center after :=
  twoSidedStep_eq_iff.2 (commonStep_swap _ _ _)

theorem twoSidedStep_negative (before center after : UInt8) :
    twoSidedStep (255 - before) (255 - center) (255 - after) =
      twoSidedStep before center after := by
  have toNat_negative (v : UInt8) : ((255 - v).toNat : Int) = 255 - v.toNat := by
    have level := v.toNat_lt
    have below : v ≤ 255 := UInt8.le_iff_toNat_le.2 (by simp; omega)
    rw [UInt8.toNat_sub_of_le _ _ below]
    simp
    omega
  rw [twoSidedStep_eq_iff]
  simp only [toNat_negative]
  exact commonStep_negative 255 _ _ _

theorem twoSidedStep_le (before center after : UInt8) :
    (twoSidedStep before center after).toNat ≤ 127 := by
  have least := before.toNat_lt
  have greatest := after.toNat_lt
  have same := toNat_twoSidedStep before center after
  have half : 2 * commonStep before.toNat center.toNat after.toNat ≤ 255 :=
    two_mul_commonStep_le (by omega) (by omega)
  omega

/-! ## Images seen from other sides -/

namespace Image
variable {α : Type} [Inhabited α]

/-- Columns become rows. -/
def transpose (img : Image α) : Image α := ofFn img.height img.width fun x y => img.pixel y x

/-- Left becomes right. -/
def mirror (img : Image α) : Image α :=
  ofFn img.width img.height fun x y => img.pixel (img.width - 1 - x) y

/-- Top becomes bottom. -/
def flip (img : Image α) : Image α :=
  ofFn img.width img.height fun x y => img.pixel x (img.height - 1 - y)

/-- Dark becomes bright. -/
def negative (img : GrayImage) : GrayImage := img.map (255 - ·)

variable {x y : Nat}

@[simp] theorem width_transpose (img : Image α) : img.transpose.width = img.height := rfl

@[simp] theorem height_transpose (img : Image α) : img.transpose.height = img.width := rfl

/-- Also outside of the image, where both sides are the default. -/
theorem pixel_transpose (img : Image α) (x y : Nat) : img.transpose.pixel x y = img.pixel y x := by
  by_cases inside : x < img.height ∧ y < img.width
  · exact pixel_ofFn _ inside.1 inside.2
  · rw [pixel_of_outside _ inside, pixel_of_outside _ (fun h => inside h.symm)]

theorem pixel_mirror (img : Image α) (hx : x < img.width) (hy : y < img.height) :
    img.mirror.pixel x y = img.pixel (img.width - 1 - x) y :=
  pixel_ofFn _ hx hy

theorem pixel_flip (img : Image α) (hx : x < img.width) (hy : y < img.height) :
    img.flip.pixel x y = img.pixel x (img.height - 1 - y) :=
  pixel_ofFn _ hx hy

theorem pixel_negative (img : GrayImage) (hx : x < img.width) (hy : y < img.height) :
    (negative img).pixel x y = 255 - img.pixel x y :=
  pixel_map _ _ hx hy

theorem transpose_transpose (img : Image α) : img.transpose.transpose = img :=
  ext_pixel rfl rfl fun x y _ _ => by rw [pixel_transpose, pixel_transpose]

theorem transpose_mirror (img : Image α) : img.mirror.transpose = img.transpose.flip := by
  refine ext_pixel rfl rfl fun x y hx hy => ?_
  have swapped := pixel_flip img.transpose hx hy
  rw [pixel_transpose, pixel_mirror img hy hx, swapped, pixel_transpose, height_transpose]

theorem transpose_flip (img : Image α) : img.flip.transpose = img.transpose.mirror := by
  refine ext_pixel rfl rfl fun x y hx hy => ?_
  have swapped := pixel_mirror img.transpose hx hy
  rw [pixel_transpose, pixel_flip img hy hx, swapped, pixel_transpose, width_transpose]

theorem transpose_negative (img : GrayImage) :
    (negative img).transpose = negative img.transpose := by
  refine ext_pixel rfl rfl fun x y hx hy => ?_
  have swapped := pixel_negative img.transpose hx hy
  rw [pixel_transpose, pixel_negative img hy hx, swapped, pixel_transpose]

/-! ## Edges seen from other sides -/

theorem pixel_verticalEdges (img : GrayImage) (left : 1 ≤ x) (right : x + 1 < img.width)
    (hy : y < img.height) : img.verticalEdges.pixel x y =
      twoSidedStep (img.pixel (x - 1) y) (img.pixel x y) (img.pixel (x + 1) y) := by
  rw [verticalEdges, pixel_ofFn _ (by omega) hy, if_pos ⟨left, right⟩]

/-- There is nothing in the first and the last column, as outside of the image. -/
theorem pixel_verticalEdges_border (img : GrayImage) (border : x = 0 ∨ img.width ≤ x + 1)
    (y : Nat) : img.verticalEdges.pixel x y = 0 := by
  by_cases inside : x < img.width ∧ y < img.height
  · rw [verticalEdges, pixel_ofFn _ inside.1 inside.2]
    exact if_neg fun inner => by omega
  · exact pixel_of_outside _ inside

/-- A column has others on both sides, or it is beside the border or beyond it. -/
theorem inner_or_border (x n : Nat) : (1 ≤ x ∧ x + 1 < n) ∨ x = 0 ∨ n ≤ x + 1 := by omega

theorem verticalEdges_negative (img : GrayImage) :
    (negative img).verticalEdges = img.verticalEdges := by
  refine ext_pixel rfl rfl fun x y (hx : x < img.width) (hy : y < img.height) => ?_
  rcases inner_or_border x img.width with ⟨left, right⟩ | border
  · rw [pixel_verticalEdges (negative img) left right hy, pixel_verticalEdges img left right hy,
      pixel_negative img (by omega) hy, pixel_negative img hx hy, pixel_negative img right hy]
    exact twoSidedStep_negative _ _ _
  · rw [pixel_verticalEdges_border (negative img) border, pixel_verticalEdges_border img border]

theorem verticalEdges_flip (img : GrayImage) :
    img.flip.verticalEdges = img.verticalEdges.flip := by
  refine ext_pixel rfl rfl fun x y (hx : x < img.width) (hy : y < img.height) => ?_
  have height : img.verticalEdges.height = img.height := rfl
  rw [pixel_flip img.verticalEdges hx hy, height]
  rcases inner_or_border x img.width with ⟨left, right⟩ | border
  · rw [pixel_verticalEdges img.flip left right hy, pixel_verticalEdges img left right (by omega),
      pixel_flip img (by omega) hy, pixel_flip img hx hy, pixel_flip img right hy]
  · rw [pixel_verticalEdges_border img.flip border, pixel_verticalEdges_border img border]

/-- The neighbors change sides. -/
theorem verticalEdges_mirror (img : GrayImage) :
    img.mirror.verticalEdges = img.verticalEdges.mirror := by
  refine ext_pixel rfl rfl fun x y (hx : x < img.width) (hy : y < img.height) => ?_
  have width : img.verticalEdges.width = img.width := rfl
  rw [pixel_mirror img.verticalEdges hx hy, width]
  rcases inner_or_border x img.width with ⟨left, right⟩ | border
  · have before : img.width - 1 - (x - 1) = img.width - 1 - x + 1 := by omega
    have after : img.width - 1 - (x + 1) = img.width - 1 - x - 1 := by omega
    rw [pixel_verticalEdges img.mirror left right hy,
      pixel_verticalEdges img (by omega) (by omega) hy, pixel_mirror img (by omega) hy,
      pixel_mirror img hx hy, pixel_mirror img right hy, before, after]
    exact twoSidedStep_swap _ _ _
  · rw [pixel_verticalEdges_border img.mirror border, pixel_verticalEdges_border img (by omega)]

/-- The horizontal edges of an image are the vertical edges of its transpose. -/
theorem horizontalEdges_eq (img : GrayImage) :
    img.horizontalEdges = img.transpose.verticalEdges.transpose := by
  refine ext_pixel rfl rfl fun x y (hx : x < img.width) (hy : y < img.height) => ?_
  have turned : img.transpose.verticalEdges.pixel y x = _ := pixel_ofFn _ hy hx
  rw [pixel_transpose, turned, horizontalEdges, pixel_ofFn _ hx hy]
  simp only [pixel_transpose, width_transpose]

theorem horizontalEdges_transpose (img : GrayImage) :
    img.transpose.horizontalEdges = img.verticalEdges.transpose := by
  rw [horizontalEdges_eq, transpose_transpose]

theorem pixel_horizontalEdges (img : GrayImage) (hx : x < img.width) (above : 1 ≤ y)
    (below : y + 1 < img.height) : img.horizontalEdges.pixel x y =
      twoSidedStep (img.pixel x (y - 1)) (img.pixel x y) (img.pixel x (y + 1)) := by
  rw [horizontalEdges_eq, pixel_transpose, pixel_verticalEdges img.transpose above below hx]
  simp only [pixel_transpose]

theorem pixel_horizontalEdges_border (img : GrayImage) (x : Nat)
    (border : y = 0 ∨ img.height ≤ y + 1) : img.horizontalEdges.pixel x y = 0 := by
  rw [horizontalEdges_eq, pixel_transpose, pixel_verticalEdges_border img.transpose border]

theorem horizontalEdges_negative (img : GrayImage) :
    (negative img).horizontalEdges = img.horizontalEdges := by
  rw [horizontalEdges_eq, transpose_negative, verticalEdges_negative, ← horizontalEdges_eq]

theorem horizontalEdges_mirror (img : GrayImage) :
    img.mirror.horizontalEdges = img.horizontalEdges.mirror := by
  rw [horizontalEdges_eq, transpose_mirror, verticalEdges_flip, transpose_flip,
    ← horizontalEdges_eq]

theorem horizontalEdges_flip (img : GrayImage) :
    img.flip.horizontalEdges = img.horizontalEdges.flip := by
  rw [horizontalEdges_eq, transpose_flip, verticalEdges_mirror, transpose_mirror,
    ← horizontalEdges_eq]

/-- An edge is nowhere steeper than half of the brightness. -/
theorem pixel_verticalEdges_le (img : GrayImage) (x y : Nat) :
    (img.verticalEdges.pixel x y).toNat ≤ 127 := by
  rcases inner_or_border x img.width with ⟨left, right⟩ | border
  · by_cases hy : y < img.height
    · rw [pixel_verticalEdges img left right hy]
      exact twoSidedStep_le _ _ _
    · have outside : img.verticalEdges.pixel x y = 0 :=
        pixel_of_outside _ fun inside => hy inside.2
      rw [outside]
      exact Nat.zero_le _
  · rw [pixel_verticalEdges_border img border]
    exact Nat.zero_le _

theorem pixel_horizontalEdges_le (img : GrayImage) (x y : Nat) :
    (img.horizontalEdges.pixel x y).toNat ≤ 127 := by
  rw [horizontalEdges_eq, pixel_transpose]
  exact pixel_verticalEdges_le _ _ _

/-- The edge pictures of an image turn with it, and stay when dark and bright are swapped. Inside
they hold the lesser of two common steps, exactly as counted in whole numbers, which is nowhere more
than 127. In the first and the last column or row there is nothing, so that there is nothing at all
where there is no other. -/
theorem edges_symmetric (img : GrayImage) :
    img.transpose.horizontalEdges = img.verticalEdges.transpose ∧
    ((negative img).verticalEdges = img.verticalEdges ∧
      (negative img).horizontalEdges = img.horizontalEdges) ∧
    (img.mirror.verticalEdges = img.verticalEdges.mirror ∧
      img.mirror.horizontalEdges = img.horizontalEdges.mirror) ∧
    (img.flip.verticalEdges = img.verticalEdges.flip ∧
      img.flip.horizontalEdges = img.horizontalEdges.flip) ∧
    (∀ x y, (img.verticalEdges.pixel x y).toNat ≤ 127 ∧
      (img.horizontalEdges.pixel x y).toNat ≤ 127) ∧
    (∀ x y, 1 ≤ x → x + 1 < img.width → y < img.height →
      ((img.verticalEdges.pixel x y).toNat : Int) = commonStep (img.pixel (x - 1) y).toNat
        (img.pixel x y).toNat (img.pixel (x + 1) y).toNat) ∧
    (∀ x y, x < img.width → 1 ≤ y → y + 1 < img.height →
      ((img.horizontalEdges.pixel x y).toNat : Int) = commonStep (img.pixel x (y - 1)).toNat
        (img.pixel x y).toNat (img.pixel x (y + 1)).toNat) ∧
    (∀ x y, x = 0 ∨ x + 1 = img.width → img.verticalEdges.pixel x y = 0) ∧
    (∀ x y, y = 0 ∨ y + 1 = img.height → img.horizontalEdges.pixel x y = 0) ∧
    (img.width < 3 → ∀ x y, img.verticalEdges.pixel x y = 0) ∧
    (img.height < 3 → ∀ x y, img.horizontalEdges.pixel x y = 0) := by
  refine ⟨horizontalEdges_transpose img,
    ⟨verticalEdges_negative img, horizontalEdges_negative img⟩,
    ⟨verticalEdges_mirror img, horizontalEdges_mirror img⟩,
    ⟨verticalEdges_flip img, horizontalEdges_flip img⟩,
    fun x y => ⟨pixel_verticalEdges_le img x y, pixel_horizontalEdges_le img x y⟩,
    ?_, ?_, ?_, ?_, ?_, ?_⟩
  · intro x y left right hy
    rw [pixel_verticalEdges img left right hy]
    exact toNat_twoSidedStep _ _ _
  · intro x y hx above below
    rw [pixel_horizontalEdges img hx above below]
    exact toNat_twoSidedStep _ _ _
  · intro x y border
    exact pixel_verticalEdges_border img (by omega) y
  · intro x y border
    exact pixel_horizontalEdges_border img x (by omega)
  · intro narrow x y
    exact pixel_verticalEdges_border img (by omega) y
  · intro low x y
    exact pixel_horizontalEdges_border img x (by omega)

end Image

namespace Sample

/-- One row that rises from dark to bright over a middle level. -/
def rise : GrayImage := Image.ofFn 3 1 fun x _ => if x = 0 then 0 else if x = 1 then 128 else 255

/-- The greatest level of an edge, which falls in the negative and stands in the transpose. -/
theorem edges_symmetric_rise :
    rise.verticalEdges.pixel 1 0 = 127 ∧ (Image.negative rise).verticalEdges.pixel 1 0 = 127 ∧
      rise.transpose.horizontalEdges.pixel 0 1 = 127 ∧ rise.verticalEdges.pixel 2 0 = 0 ∧
      commonStep 0 128 255 = 127 ∧ rise.horizontalEdges.pixel 1 0 = 0 := by
  have level : rise.verticalEdges.pixel 1 0 = 127 := by decide
  obtain ⟨turned, ⟨vertical, -⟩, -, -, -, inside, -, borders, -, -, low⟩ :=
    rise.edges_symmetric
  have exactly := inside 1 0 (by decide) (by decide) (by decide)
  rw [level] at exactly
  refine ⟨level, vertical ▸ level, ?_, borders 2 0 (.inr rfl), exactly.symm, low (by decide) 1 0⟩
  rw [turned, Image.pixel_transpose, level]

end Sample
end MeterSight
