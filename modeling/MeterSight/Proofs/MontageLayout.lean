import Mathlib.Algebra.Ring.Nat
import Mathlib.Data.List.MinMax
import Mathlib.Order.Nat
import MeterSight.Decimal.Whole
import MeterSight.Montage

/-!
# The layout of a montage

The canvas is measured by one formula and filled by a running row. The two agree for pictures of
any sizes, so that each picture is shown in full and below the one before: `compose_layout`.
-/
namespace MeterSight
open Decimal

theorem Image.pixel_layOver_of_beside {ground img : RgbaImage} {row x y : Nat}
    (beside : ¬ (x < img.width ∧ row ≤ y ∧ y < row + img.height)) :
    (ground.layOver img row).pixel x y = ground.pixel x y := by
  by_cases inside : x < ground.width ∧ y < ground.height
  · rw [pixel_layOver ground img row inside.1 inside.2, if_neg beside]
  · rw [pixel_of_outside ground inside]
    exact pixel_of_outside _ inside

namespace Montage
variable {images below : List RgbaImage} {img next canvas : RgbaImage} {row i j x y v : Nat}

/-- The row of the stack where a picture begins. -/
def top (images : List RgbaImage) (i : Nat) : Nat :=
  ((images.take i).map fun img => img.height + gap).sum

/-- The rows of the stack, with the gaps between the pictures. -/
def totalHeight (images : List RgbaImage) : Nat :=
  (images.map Image.height).sum + gap * (images.length - 1)

/-- A picture of the stack lies over a pixel. -/
def Covers (images : List RgbaImage) (i x y : Nat) : Prop :=
  ∃ img, images[i]? = some img ∧ x < img.width ∧ top images i ≤ y ∧ y < top images i + img.height

/-! ### Rows -/

@[simp] theorem top_zero (images : List RgbaImage) : top images 0 = 0 := by simp [top]

@[simp] theorem top_cons_succ (img : RgbaImage) (below : List RgbaImage) (i : Nat) :
    top (img :: below) (i + 1) = img.height + gap + top below i := by
  simp [top]

theorem totalHeight_cons_cons (img next : RgbaImage) (below : List RgbaImage) :
    totalHeight (img :: next :: below) = img.height + gap + totalHeight (next :: below) := by
  simp only [totalHeight, List.map_cons, List.sum_cons, List.length_cons]
  grind

/-- Each picture ends a gap above the next. -/
theorem top_add_height_le (found : images[i]? = some img) (later : i < j) :
    top images i + img.height + gap ≤ top images j := by
  induction images generalizing i j with
  | nil => cases found
  | cons first below ih =>
    obtain ⟨j, rfl⟩ := Nat.exists_eq_add_of_lt later
    cases i with
    | zero =>
      obtain rfl := Option.some.inj found
      simp only [top_zero, top_cons_succ]
      omega
    | succ i =>
      have rest := ih (j := i + j + 1) found (by omega)
      have shift : i + 1 + j + 1 = (i + j + 1) + 1 := by omega
      rw [shift, top_cons_succ, top_cons_succ]
      omega

theorem top_add_height_le_totalHeight (found : images[i]? = some img) :
    top images i + img.height ≤ totalHeight images := by
  induction images generalizing i with
  | nil => cases found
  | cons first below ih =>
    cases i with
    | zero =>
      obtain rfl := Option.some.inj found
      simp [totalHeight]
      omega
    | succ i =>
      cases below with
      | nil => cases found
      | cons next below =>
        have rest := ih found
        rw [top_cons_succ, totalHeight_cons_cons]
        omega

/-! ### Filling the canvas -/

@[simp] theorem width_stack (images : List RgbaImage) (row : Nat) (canvas : RgbaImage) :
    (stack images row canvas).width = canvas.width := by
  induction images generalizing row canvas with
  | nil => rfl
  | cons img below ih => exact ih _ _

@[simp] theorem height_stack (images : List RgbaImage) (row : Nat) (canvas : RgbaImage) :
    (stack images row canvas).height = canvas.height := by
  induction images generalizing row canvas with
  | nil => rfl
  | cons img below ih => exact ih _ _

/-- The running row counts with 32 bits only what a stack of fewer rows never reaches. -/
theorem stack_cons_cons (fits : totalHeight (img :: next :: below) ≤ maxUInt32) (row : Nat)
    (canvas : RgbaImage) :
    stack (img :: next :: below) row canvas =
      stack (next :: below) (row + (img.height + gap)) (canvas.layOver img row) := by
  rw [totalHeight_cons_cons] at fits
  unfold maxUInt32 at fits
  rw [stack, Nat.mod_eq_of_lt (by omega)]

/-- The running row never goes back up. -/
theorem pixel_stack_above (images : List RgbaImage) (canvas : RgbaImage) (above : y < row) :
    (stack images row canvas).pixel x y = canvas.pixel x y := by
  induction images generalizing row canvas with
  | nil => rfl
  | cons img below ih =>
    rw [stack, ih _ (by omega), Image.pixel_layOver_of_beside (by omega)]

/-- Pictures above do not reach down to the one that covers a pixel, and pictures below begin under
it. -/
theorem pixel_stack_of_covered (fits : totalHeight images ≤ maxUInt32)
    (found : images[i]? = some img) (hx : x < img.width) (hv : v < img.height)
    (wide : x < canvas.width) (high : row + top images i + v < canvas.height) :
    (stack images row canvas).pixel x (row + top images i + v) =
      (img.pixel x v).blendOver (canvas.pixel x (row + top images i + v)) := by
  induction images generalizing i row canvas with
  | nil => cases found
  | cons first below ih =>
    have laid (high : row + v < canvas.height) (hv : v < first.height) (hx : x < first.width) :
        (canvas.layOver first row).pixel x (row + v) =
          (first.pixel x v).blendOver (canvas.pixel x (row + v)) := by
      rw [Image.pixel_layOver canvas first row wide high, if_pos (by omega),
        Nat.add_sub_cancel_left]
    cases below with
    | nil =>
      cases i with
      | zero =>
        obtain rfl := Option.some.inj found
        exact laid high hv hx
      | succ i => cases found
    | cons next below =>
      rw [stack_cons_cons fits]
      rw [totalHeight_cons_cons] at fits
      cases i with
      | zero =>
        obtain rfl := Option.some.inj found
        simp only [top_zero, Nat.add_zero] at high ⊢
        rw [pixel_stack_above _ _ (by omega), laid high hv hx]
      | succ i =>
        have place : row + top (first :: next :: below) (i + 1) =
            row + (first.height + gap) + top (next :: below) i := by
          rw [top_cons_succ]
          omega
        rw [place] at high ⊢
        rw [← Image.width_layOver canvas first row] at wide
        rw [← Image.height_layOver canvas first row] at high
        rw [ih (by omega) found wide high, Image.pixel_layOver_of_beside (by omega)]

theorem pixel_stack_of_not_covered (fits : totalHeight images ≤ maxUInt32)
    (bare : ∀ i, ¬ Covers images i x y) :
    (stack images row canvas).pixel x (row + y) = canvas.pixel x (row + y) := by
  induction images generalizing row y canvas with
  | nil => rfl
  | cons first below ih =>
    have beside : (canvas.layOver first row).pixel x (row + y) = canvas.pixel x (row + y) := by
      refine Image.pixel_layOver_of_beside fun inside => bare 0 ⟨first, rfl, inside.1, ?_⟩
      rw [top_zero]
      omega
    cases below with
    | nil => exact beside
    | cons next below =>
      rw [stack_cons_cons fits]
      rw [totalHeight_cons_cons] at fits
      rcases Nat.lt_or_ge y (first.height + gap) with above | under
      · rw [pixel_stack_above _ _ (by omega), beside]
      · obtain ⟨y, rfl⟩ := Nat.exists_eq_add_of_le under
        have place : row + (first.height + gap + y) = row + (first.height + gap) + y := by omega
        rw [← beside, place]
        refine ih (by omega) fun i covered => ?_
        obtain ⟨img, found, inside⟩ := covered
        refine bare (i + 1) ⟨img, found, inside.1, ?_⟩
        rw [top_cons_succ]
        omega

theorem stackWidth_eq (images : List RgbaImage) :
    stackWidth images = (images.map Image.width).foldr max 0 := by
  rw [stackWidth]
  induction images.map Image.width with
  | nil => rfl
  | cons w rest ih =>
    rw [List.foldr_cons, ← ih, List.max?_cons]
    cases rest.max? <;> simp

theorem stackHeight_eq (fits : totalHeight images ≤ maxUInt32) :
    stackHeight images = totalHeight images := by
  rw [stackHeight, ← List.sum_eq_foldr]
  exact Nat.mod_eq_of_lt (Nat.lt_succ_of_le fits)

theorem compose_eq (any : images ≠ []) (fits : totalHeight images ≤ maxUInt32) :
    compose images = (Montage.canvas (max 1 ((images.map Image.width).foldr max 0))
      (max 1 (totalHeight images))).map fun bare => some (stack images 0 bare) := by
  rw [compose, if_neg any, stackWidth_eq, stackHeight_eq fits, Nat.max_comm, Nat.max_comm _ 1]

/-- Without room for a canvas there is no montage. -/
theorem compose_of_tooLarge (any : images ≠ []) (fits : totalHeight images ≤ maxUInt32)
    (large : canvasLimit <
      4 * max 1 ((images.map Image.width).foldr max 0) * max 1 (totalHeight images)) :
    compose images = .error .tooLarge := by
  rw [compose_eq any fits, Montage.canvas, if_pos large]
  rfl

/-- The canvas is as wide as the widest picture and as high as all together with the gaps, but has a
pixel at least. If it takes no more bytes than there can be, every picture lies on it in full, below
the one before, and around them only the backdrop is seen. If it takes more there is none. -/
theorem compose_layout (any : images ≠ []) (fits : totalHeight images ≤ maxUInt32) :
    let width := max 1 ((images.map Image.width).foldr max 0)
    let height := max 1 (totalHeight images)
    (2 ^ 63 ≤ 4 * width * height → compose images = .error .tooLarge) ∧
    (4 * width * height < 2 ^ 63 →
      ∃ canvas, compose images = .ok (some canvas) ∧
        canvas.width = width ∧ canvas.height = height ∧
        (∀ i img, images[i]? = some img → ∀ x v, x < img.width → v < img.height →
          x < canvas.width ∧ top images i + v < canvas.height ∧
          ((img.pixel x v).alpha = 255 → canvas.pixel x (top images i + v) = img.pixel x v) ∧
          ((img.pixel x v).alpha = 0 →
            canvas.pixel x (top images i + v) = ⟨128, 128, 128, 255⟩)) ∧
        (∀ x y, x < canvas.width → y < canvas.height → (∀ i, ¬ Covers images i x y) →
          canvas.pixel x y = ⟨128, 128, 128, 255⟩) ∧
        ∀ i j img, images[i]? = some img → i < j →
          top images i + img.height + gap ≤ top images j) := by
  intro width height
  refine ⟨fun large => compose_of_tooLarge any fits large, fun room => ?_⟩
  let blank : RgbaImage := Image.filled width height backdrop
  have bare {x y : Nat} (hx : x < width) (hy : y < height) : blank.pixel x y = backdrop :=
    Image.pixel_ofFn _ hx hy
  have composed : compose images = .ok (some (stack images 0 blank)) := by
    have small : ¬ canvasLimit <
        4 * max 1 ((images.map Image.width).foldr max 0) * max 1 (totalHeight images) :=
      Nat.not_lt.2 (Nat.le_of_lt_succ room)
    rw [compose_eq any fits, Montage.canvas, if_neg small]
    rfl
  refine ⟨_, composed, width_stack .., height_stack .., ?_, ?_, ?_⟩
  · intro i img found x v hx hv
    rw [width_stack, height_stack]
    have wide : x < width := by
      have widest : img.width ≤ (images.map Image.width).foldr max 0 :=
        List.le_max_of_le (List.mem_map_of_mem (List.mem_of_getElem? found)) (Nat.le_refl _)
      omega
    have high : 0 + top images i + v < height := by
      have last := top_add_height_le_totalHeight found
      omega
    have shown : (stack images 0 blank).pixel x (0 + top images i + v) =
        (img.pixel x v).blendOver (blank.pixel x (0 + top images i + v)) :=
      pixel_stack_of_covered fits found hx hv wide high
    rw [bare wide high, Nat.zero_add] at shown
    rw [Nat.zero_add] at high
    refine ⟨wide, high, fun full => ?_, fun clear => ?_⟩
    · exact shown.trans (Rgba.blendOver_opaque full _)
    · exact shown.trans (Rgba.blendOver_transparent clear _)
  · intro x y hx hy uncovered
    rw [width_stack] at hx
    rw [height_stack] at hy
    have shown : (stack images 0 blank).pixel x (0 + y) = blank.pixel x (0 + y) :=
      pixel_stack_of_not_covered fits uncovered
    rw [Nat.zero_add, bare hx hy] at shown
    exact shown
  · intro i j img found later
    exact top_add_height_le found later

/-- A picture that is all width above one that is all height: none of them has a pixel, but the
canvas would have too many. -/
theorem compose_wide_above_tall :
    let wide : RgbaImage := Image.filled 4294967295 0 backdrop
    let tall : RgbaImage := Image.filled 0 1073741825 backdrop
    [wide, tall] ≠ [] ∧ totalHeight [wide, tall] ≤ maxUInt32 ∧
      compose [wide, tall] = .error .tooLarge ∧
      ¬ ∃ canvas, compose [wide, tall] = .ok (some canvas) := by
  intro wide tall
  have any : [wide, tall] ≠ [] := List.cons_ne_nil _ _
  have fits : totalHeight [wide, tall] ≤ maxUInt32 := by decide
  have error : compose [wide, tall] = .error .tooLarge := compose_of_tooLarge any fits (by decide)
  exact ⟨any, fits, error, by simp [error]⟩

end Montage

namespace Sample
open Montage

/-- A color picture with an opaque and a transparent pixel. -/
def halfClear : RgbaImage :=
  Image.ofFn 2 1 fun x _ => if x = 0 then ⟨255, 0, 0, 255⟩ else ⟨255, 0, 0, 0⟩

/-- The picture above one without columns and a gray one. -/
theorem compose_layout_halfClear :
    let images := [halfClear, Image.filled 0 3 default, (Image.filled 1 2 7).toRgba]
    images ≠ [] ∧ totalHeight images ≤ maxUInt32 ∧
      ∃ canvas, compose images = .ok (some canvas) ∧ canvas.width = 2 ∧ canvas.height = 14 ∧
        canvas.pixel 0 0 = ⟨255, 0, 0, 255⟩ ∧ canvas.pixel 1 0 = ⟨128, 128, 128, 255⟩ ∧
        canvas.pixel 0 13 = ⟨7, 7, 7, 255⟩ ∧ canvas.pixel 1 13 = ⟨128, 128, 128, 255⟩ := by
  intro images
  have any : images ≠ [] := List.cons_ne_nil _ _
  have fits : totalHeight images ≤ maxUInt32 := by decide
  refine ⟨any, fits, ?_⟩
  obtain ⟨canvas, composed, width, height, shown, bare, -⟩ :=
    (compose_layout any fits).2 (by decide)
  refine ⟨canvas, composed, width, height, ?_, ?_, ?_, ?_⟩
  · exact (shown 0 _ rfl 0 0 (by decide) (by decide)).2.2.1 rfl
  · exact (shown 0 _ rfl 1 0 (by decide) (by decide)).2.2.2 rfl
  · exact ((shown 2 _ rfl 0 1 (by decide) (by decide)).2.2.1 (by decide +kernel)).trans
      (by decide +kernel)
  · refine bare 1 13 (by rw [width]; decide) (by rw [height]; decide) ?_
    rintro i ⟨img, found, beside, -, low⟩
    match i, found with
    | 0, rfl => exact absurd low (by decide)
    | 1, rfl => exact absurd beside (by decide)
    | 2, rfl => exact absurd beside (by decide)

end Sample
end MeterSight
