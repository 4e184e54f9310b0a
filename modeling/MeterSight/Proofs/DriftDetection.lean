import Mathlib.Algebra.Order.Group.Int
import Mathlib.Algebra.Order.Group.Abs
import Mathlib.Order.Bounds.Basic
import MeterSight.Drift

/-!
# Drift detection

What the search of a window finds, in terms of the brightness of the photo. Of each row the last
column on a vertical edge counts, and of these the least; of each column the first row on a
horizontal edge, and of these the greatest. The offset leads from the anchor to that column and row.
-/
namespace MeterSight

/-! ## Scans -/

section scan
variable {n m : Nat}

theorem getLast?_filter_range_eq_some_iff (p : Nat → Bool) :
    ((List.range n).filter p).getLast? = some m ↔ IsGreatest {i | i < n ∧ p i} m := by
  induction n with
  | zero => simp [IsGreatest]
  | succ n ih =>
    rw [List.range_succ, List.filter_append]
    by_cases last : p n = true
    · have top : IsGreatest {i | i < n + 1 ∧ p i} n :=
        ⟨⟨Nat.lt_succ_self n, last⟩, fun i hi => Nat.le_of_lt_succ hi.1⟩
      simp only [List.filter_cons, last, if_true, List.filter_nil, List.getLast?_concat,
        Option.some.injEq]
      exact ⟨fun same => same ▸ top, fun greatest => top.unique greatest⟩
    · have same : {i | i < n + 1 ∧ p i} = {i | i < n ∧ p i} := by
        ext i
        refine ⟨fun ⟨below, on⟩ => ⟨?_, on⟩, fun ⟨below, on⟩ => ⟨by omega, on⟩⟩
        have : i ≠ n := by rintro rfl; exact last on
        omega
      simp only [List.filter_cons, last, if_false, List.filter_nil, List.append_nil, ih, same,
        Bool.false_eq_true]

theorem find?_range_eq_some_iff (p : Nat → Bool) :
    (List.range n).find? p = some m ↔ IsLeast {i | i < n ∧ p i} m := by
  rw [List.find?_range_eq_some]
  constructor
  · rintro ⟨on, mem, before⟩
    refine ⟨⟨List.mem_range.1 mem, on⟩, fun i hi => Nat.le_of_not_lt fun less => ?_⟩
    simpa [hi.2] using before i less
  · rintro ⟨⟨below, on⟩, least⟩
    refine ⟨on, List.mem_range.2 below, fun i less => ?_⟩
    by_contra off
    have le := least ⟨less.trans below, by simpa using off⟩
    omega

theorem min?_filterMap_range_eq_some_iff (f : Nat → Option Nat) :
    ((List.range n).filterMap f).min? = some m ↔ IsLeast {v | ∃ i < n, f i = some v} m := by
  simp [List.min?_eq_some_iff, IsLeast, lowerBounds]

theorem max?_filterMap_range_eq_some_iff (f : Nat → Option Nat) :
    ((List.range n).filterMap f).max? = some m ↔ IsGreatest {v | ∃ i < n, f i = some v} m := by
  simp [List.max?_eq_some_iff, IsGreatest, upperBounds]

end scan

/-! ## Edges -/

theorem toNat_min (a b : UInt8) : (min a b).toNat = min a.toNat b.toNat := by
  have min_def : min a b = if a ≤ b then a else b := rfl
  rw [min_def]
  split
  · next le => exact (Nat.min_eq_left le).symm
  · next not_le => exact (Nat.min_eq_right (Nat.le_of_not_le not_le)).symm

/-- Three levels rise twice or fall twice, by at least 40 each time. -/
def Steep (before center after : UInt8) : Prop :=
  (before.toNat + 40 ≤ center.toNat ∧ center.toNat + 40 ≤ after.toNat) ∨
    (after.toNat + 40 ≤ center.toNat ∧ center.toNat + 40 ≤ before.toNat)

instance (before center after : UInt8) : Decidable (Steep before center after) :=
  inferInstanceAs (Decidable (_ ∨ _))

theorem edgeThreshold_le_twoSidedStep_iff (before center after : UInt8) :
    edgeThreshold ≤ twoSidedStep before center after ↔ Steep before center after := by
  have le_min (a b : UInt8) : edgeThreshold ≤ min a b ↔ 40 ≤ a.toNat ∧ 40 ≤ b.toNat := by
    rw [Std.le_min_iff]
    rfl
  unfold twoSidedStep Steep
  split
  · next rising =>
    have first : before.toNat < center.toNat := rising.1
    have second : center.toNat < after.toNat := rising.2
    rw [le_min, UInt8.toNat_sub_of_le _ _ first.le, UInt8.toNat_sub_of_le _ _ second.le]
    omega
  split
  · next falling =>
    have first : center.toNat < before.toNat := falling.1
    have second : after.toNat < center.toNat := falling.2
    rw [le_min, UInt8.toNat_sub_of_le _ _ first.le, UInt8.toNat_sub_of_le _ _ second.le]
    omega
  · next notRising notFalling =>
    have rising : ¬ (before.toNat < center.toNat ∧ center.toNat < after.toNat) := notRising
    have falling : ¬ (center.toNat < before.toNat ∧ after.toNat < center.toNat) := notFalling
    have flat : ¬ edgeThreshold ≤ 0 := by decide
    simp only [flat, false_iff]
    omega

namespace Image

theorem le_pixel_verticalEdges_iff (img : GrayImage) {x y : Nat} (hx : x < img.width)
    (hy : y < img.height) :
    edgeThreshold ≤ img.verticalEdges.pixel x y ↔ 1 ≤ x ∧ x + 1 < img.width ∧
      Steep (img.pixel (x - 1) y) (img.pixel x y) (img.pixel (x + 1) y) := by
  rw [verticalEdges, pixel_ofFn _ hx hy]
  split
  · next inner => simp only [edgeThreshold_le_twoSidedStep_iff, inner, true_and]
  · next border =>
    refine ⟨fun steep => absurd steep (by decide), fun ⟨left, right, _⟩ => ?_⟩
    exact absurd ⟨left, right⟩ border

theorem le_pixel_horizontalEdges_iff (img : GrayImage) {x y : Nat} (hx : x < img.width)
    (hy : y < img.height) :
    edgeThreshold ≤ img.horizontalEdges.pixel x y ↔ 1 ≤ y ∧ y + 1 < img.height ∧
      Steep (img.pixel x (y - 1)) (img.pixel x y) (img.pixel x (y + 1)) := by
  rw [horizontalEdges, pixel_ofFn _ hx hy]
  split
  · next inner => simp only [edgeThreshold_le_twoSidedStep_iff, inner, true_and]
  · next border =>
    refine ⟨fun steep => absurd steep (by decide), fun ⟨above, below, _⟩ => ?_⟩
    exact absurd ⟨above, below⟩ border

end Image

/-! ## Scans of an edge -/

/-- The column that a scan settles on: of the last ones of all rows that meet the edge, the
least. -/
def IsEdgeColumn (edge : Set (Nat × Nat)) (column : Nat) : Prop :=
  IsLeast {last | ∃ row, IsGreatest {c | (c, row) ∈ edge} last} column

/-- The row that a scan settles on: of the first ones of all columns that meet the edge, the
greatest. -/
def IsEdgeRow (edge : Set (Nat × Nat)) (row : Nat) : Prop :=
  IsGreatest {first | ∃ column, IsLeast {t | (column, t) ∈ edge} first} row

/-- The first `size` columns and rows of an edge picture show the pixels of an edge. -/
def Marks (edges : GrayImage) (size : Nat) (edge : Set (Nat × Nat)) : Prop :=
  ∀ column row, (column, row) ∈ edge ↔
    (column < size ∧ row < size) ∧ edgeThreshold ≤ edges.pixel column row

namespace Marks
variable {edges : GrayImage} {size : Nat} {edge : Set (Nat × Nat)}
open DriftWindow

theorem edgeColumn?_eq_some_iff (marks : Marks edges size edge) (column : Nat) :
    edgeColumn? edges size = some column ↔ IsEdgeColumn edge column := by
  have same {row : Nat} (hr : row < size) :
      {c | c < size ∧ edgeThreshold ≤ edges.pixel c row} = {c | (c, row) ∈ edge} := by
    ext c
    simp [marks c row, hr]
  simp only [edgeColumn?, min?_filterMap_range_eq_some_iff, getLast?_filter_range_eq_some_iff,
    decide_eq_true_eq, IsEdgeColumn]
  refine iff_of_eq (congrArg (IsLeast · column) (Set.ext fun last => ?_))
  constructor
  · rintro ⟨row, hr, greatest⟩
    exact ⟨row, same hr ▸ greatest⟩
  · rintro ⟨row, greatest⟩
    have hr := ((marks last row).1 greatest.1).1.2
    exact ⟨row, hr, (same hr).symm ▸ greatest⟩

theorem edgeRow?_eq_some_iff (marks : Marks edges size edge) (row : Nat) :
    edgeRow? edges size = some row ↔ IsEdgeRow edge row := by
  have same {column : Nat} (hc : column < size) :
      {t | t < size ∧ edgeThreshold ≤ edges.pixel column t} = {t | (column, t) ∈ edge} := by
    ext t
    simp [marks column t, hc]
  simp only [edgeRow?, max?_filterMap_range_eq_some_iff, find?_range_eq_some_iff,
    decide_eq_true_eq, IsEdgeRow]
  refine iff_of_eq (congrArg (IsGreatest · row) (Set.ext fun first => ?_))
  constructor
  · rintro ⟨column, hc, least⟩
    exact ⟨column, same hc ▸ least⟩
  · rintro ⟨column, least⟩
    have hc := ((marks column first).1 least.1).1.1
    exact ⟨column, hc, (same hc).symm ▸ least⟩

theorem edgeColumn?_eq_none_iff (marks : Marks edges size edge) :
    edgeColumn? edges size = none ↔ edge = ∅ := by
  simp only [edgeColumn?, List.min?_eq_none_iff, List.filterMap_eq_nil_iff, List.mem_range,
    List.getLast?_eq_none_iff, List.filter_eq_nil_iff, decide_eq_true_eq,
    Set.eq_empty_iff_forall_notMem, Prod.forall, marks _ _]
  exact ⟨fun off c row ⟨⟨hc, hr⟩, on⟩ => off row hr c hc on,
    fun off row hr c hc on => off c row ⟨⟨hc, hr⟩, on⟩⟩

theorem edgeRow?_eq_none_iff (marks : Marks edges size edge) :
    edgeRow? edges size = none ↔ edge = ∅ := by
  simp only [edgeRow?, List.max?_eq_none_iff, List.filterMap_eq_nil_iff, List.mem_range,
    List.find?_eq_none, decide_eq_true_eq, Set.eq_empty_iff_forall_notMem, Prod.forall,
    marks _ _]
  exact ⟨fun off c row ⟨⟨hc, hr⟩, on⟩ => off c hc row hr on,
    fun off c hc row hr on => off c row ⟨⟨hc, hr⟩, on⟩⟩

theorem exists_isEdgeColumn (marks : Marks edges size edge) (some : edge.Nonempty) :
    ∃ column, IsEdgeColumn edge column := by
  have found := mt marks.edgeColumn?_eq_none_iff.1 some.ne_empty
  obtain ⟨column, eq⟩ := Option.ne_none_iff_exists'.1 found
  exact ⟨column, (marks.edgeColumn?_eq_some_iff column).1 eq⟩

theorem exists_isEdgeRow (marks : Marks edges size edge) (some : edge.Nonempty) :
    ∃ row, IsEdgeRow edge row := by
  have found := mt marks.edgeRow?_eq_none_iff.1 some.ne_empty
  obtain ⟨row, eq⟩ := Option.ne_none_iff_exists'.1 found
  exact ⟨row, (marks.edgeRow?_eq_some_iff row).1 eq⟩

end Marks

/-! ## What the window shows -/

namespace DriftWindow

/-- The brightness in a column and a row of the window. -/
def level (w : DriftWindow) (photo : RgbaImage) (column row : Nat) : UInt8 :=
  (photo.pixel (w.x - w.range + column) (w.y - w.range + row)).luma

/-- The columns and rows of the pixels on a vertical edge, which have a neighbor on either side. -/
def verticalEdge (w : DriftWindow) (photo : RgbaImage) : Set (Nat × Nat) :=
  {p | (1 ≤ p.1 ∧ p.1 ≤ 2 * w.range - 1 ∧ p.2 ≤ 2 * w.range) ∧
    Steep (w.level photo (p.1 - 1) p.2) (w.level photo p.1 p.2) (w.level photo (p.1 + 1) p.2)}

/-- The columns and rows of the pixels on a horizontal edge, which have a neighbor above and
below. -/
def horizontalEdge (w : DriftWindow) (photo : RgbaImage) : Set (Nat × Nat) :=
  {p | (1 ≤ p.2 ∧ p.2 ≤ 2 * w.range - 1 ∧ p.1 ≤ 2 * w.range) ∧
    Steep (w.level photo p.1 (p.2 - 1)) (w.level photo p.1 p.2) (w.level photo p.1 (p.2 + 1))}

section fitting
variable {w : DriftWindow} {photo : RgbaImage} (narrow : (photo.width : Int) ≤ Region.maxCoordinate)
  (fits : w.Fits photo.width photo.height)
include narrow fits

/-- The side of a window inside of an image is not cut off. -/
theorem size_of_fits : w.size = 2 * w.range + 1 := by
  have reach := fits.1
  have near := w.range_le_x
  simp only [size, Region.maxCoordinate] at narrow ⊢
  omega

theorem width_gray_of_fits : (photo.crop w.rect).toGray.width = 2 * w.range + 1 := by
  have size := size_of_fits narrow fits
  have left := w.range_le_x
  have reach := fits.1
  exact (photo.width_crop (r := w.rect) (by simp only [rect]; omega)).trans size

theorem height_gray_of_fits : (photo.crop w.rect).toGray.height = 2 * w.range + 1 := by
  have size := size_of_fits narrow fits
  have top := w.range_le_y
  have reach := fits.2
  exact (photo.height_crop (r := w.rect) (by simp only [rect]; omega)).trans size

theorem pixel_gray_of_fits {column row : Nat} (hc : column ≤ 2 * w.range)
    (hr : row ≤ 2 * w.range) :
    (photo.crop w.rect).toGray.pixel column row = w.level photo column row := by
  have size := size_of_fits narrow fits
  have width := width_gray_of_fits narrow fits
  have height := height_gray_of_fits narrow fits
  rw [Image.toGray, Image.width_map] at width
  rw [Image.toGray, Image.height_map] at height
  have left := w.range_le_x
  have top := w.range_le_y
  obtain ⟨right, bottom⟩ := fits
  rw [Image.toGray, Image.pixel_map _ _ (by omega) (by omega), Image.pixel_crop]
  · rfl
  all_goals simp only [rect]; omega

theorem marks_verticalEdges :
    Marks (photo.crop w.rect).toGray.verticalEdges w.size (w.verticalEdge photo) := by
  intro column row
  have size := size_of_fits narrow fits
  have width := width_gray_of_fits narrow fits
  have height := height_gray_of_fits narrow fits
  by_cases inside : column < w.size ∧ row < w.size
  · have inner : (1 ≤ column ∧ column + 1 < (photo.crop w.rect).toGray.width) ↔
        1 ≤ column ∧ column ≤ 2 * w.range - 1 ∧ row ≤ 2 * w.range := by omega
    rw [and_iff_right inside, Image.le_pixel_verticalEdges_iff _ (by omega) (by omega), ← and_assoc,
      inner]
    refine and_congr_right fun ⟨_, _, below⟩ => ?_
    have level {c : Nat} (h : c ≤ 2 * w.range) := pixel_gray_of_fits narrow fits h below
    rw [level (by omega), level (by omega), level (by omega)]
  · refine iff_of_false (fun ⟨⟨_, right, below⟩, _⟩ => inside ?_) fun ⟨h, _⟩ => inside h
    simp only at right below
    omega

theorem marks_horizontalEdges :
    Marks (photo.crop w.rect).toGray.horizontalEdges w.size (w.horizontalEdge photo) := by
  intro column row
  have size := size_of_fits narrow fits
  have width := width_gray_of_fits narrow fits
  have height := height_gray_of_fits narrow fits
  by_cases inside : column < w.size ∧ row < w.size
  · have inner : (1 ≤ row ∧ row + 1 < (photo.crop w.rect).toGray.height) ↔
        1 ≤ row ∧ row ≤ 2 * w.range - 1 ∧ column ≤ 2 * w.range := by omega
    rw [and_iff_right inside, Image.le_pixel_horizontalEdges_iff _ (by omega) (by omega),
      ← and_assoc, inner]
    refine and_congr_right fun ⟨_, _, left⟩ => ?_
    have level {t : Nat} (h : t ≤ 2 * w.range) := pixel_gray_of_fits narrow fits left h
    rw [level (by omega), level (by omega), level (by omega)]
  · refine iff_of_false (fun ⟨⟨_, below, right⟩, _⟩ => inside ?_) fun ⟨h, _⟩ => inside h
    simp only at right below
    omega

/-! ## The offset -/

theorem detect_of_edges {column row : Nat} (hc : IsEdgeColumn (w.verticalEdge photo) column)
    (hr : IsEdgeRow (w.horizontalEdge photo) row) (held : Option (List Frame)) :
    (w.detect photo held).1 = ⟨(column : Int) - w.range, (row : Int) - w.range⟩ := by
  have found := ((marks_verticalEdges narrow fits).edgeColumn?_eq_some_iff column).2 hc
  have found' := ((marks_horizontalEdges narrow fits).edgeRow?_eq_some_iff row).2 hr
  simp only [detect, fits, if_true, found, found']

theorem detect_of_no_edge (none : w.verticalEdge photo = ∅ ∨ w.horizontalEdge photo = ∅)
    (held : Option (List Frame)) : (w.detect photo held).1 = .zero := by
  simp only [detect, fits, if_true]
  rcases none with none | none
  · simp only [(marks_verticalEdges narrow fits).edgeColumn?_eq_none_iff.2 none]
  · simp only [(marks_horizontalEdges narrow fits).edgeRow?_eq_none_iff.2 none]
    split <;> simp_all

/-- An edge has neighbors on both sides, so the anchor stays off the rim of the window. -/
theorem abs_detect_le_of_fits (held : Option (List Frame)) :
    |(w.detect photo held).1.dx| ≤ w.range - 1 ∧ |(w.detect photo held).1.dy| ≤ w.range - 1 := by
  have positive := w.one_le_range
  by_cases none : w.verticalEdge photo = ∅ ∨ w.horizontalEdge photo = ∅
  · rw [detect_of_no_edge narrow fits none held]
    simp only [Offset.zero, abs_zero]
    omega
  obtain ⟨vertical, horizontal⟩ := not_or.1 none
  obtain ⟨column, hc⟩ := (marks_verticalEdges narrow fits).exists_isEdgeColumn
    (Set.nonempty_iff_ne_empty.2 vertical)
  obtain ⟨row, hr⟩ := (marks_horizontalEdges narrow fits).exists_isEdgeRow
    (Set.nonempty_iff_ne_empty.2 horizontal)
  obtain ⟨_, ⟨⟨left, right, -⟩, -⟩, -⟩ := hc.1
  obtain ⟨_, ⟨⟨top, bottom, -⟩, -⟩, -⟩ := hr.1
  rw [detect_of_edges narrow fits hc hr held, abs_le, abs_le]
  simp only at left right top bottom ⊢
  omega

end fitting

theorem detect_of_not_fits {w : DriftWindow} {photo : RgbaImage}
    (h : ¬ w.Fits photo.width photo.height) (held : Option (List Frame)) :
    w.detect photo held = (.zero, held) := by
  simp only [detect, h, if_false]

/-- Only the window is looked at. -/
theorem detect_congr {w : DriftWindow} {photo photo' : RgbaImage}
    (fits : w.Fits photo.width photo.height) (fits' : w.Fits photo'.width photo'.height)
    (same : ∀ x y, w.x - w.range ≤ x → x ≤ w.x + w.range → w.y - w.range ≤ y →
      y ≤ w.y + w.range → photo'.pixel x y = photo.pixel x y) :
    w.detect photo' = w.detect photo := by
  have left := w.range_le_x
  have top := w.range_le_y
  have side : w.size ≤ 2 * w.range + 1 := Nat.min_le_left ..
  have inside {img : RgbaImage} (h : w.Fits img.width img.height) :
      w.rect.left + w.rect.width ≤ img.width ∧ w.rect.top + w.rect.height ≤ img.height := by
    obtain ⟨right, bottom⟩ := h
    simp only [rect]
    omega
  have part : photo'.crop w.rect = photo.crop w.rect := by
    refine Image.crop_eq_crop rfl rfl (inside fits') (inside fits) fun x y hx hy => ?_
    simp only [rect] at hx hy ⊢
    exact same _ _ (by omega) (by omega) (by omega) (by omega)
  funext held
  simp only [detect, fits, fits', part]

/-- The offset of a photo in terms of what the window shows. Nothing has moved where the window
does not fit or one of the two edges is missing. Else the anchor has moved to the column and the row
that the scans of the two edges settle on. It stays inside of the window and of the photo, and what
lies outside of the window has no influence. -/
theorem detect_finds_edges (w : DriftWindow) (photo : RgbaImage) (held : Option (List Frame))
    (narrow : (photo.width : Int) ≤ Region.maxCoordinate) :
    let offset := (w.detect photo held).1
    (¬ w.Fits photo.width photo.height → offset = .zero) ∧
    (w.Fits photo.width photo.height →
      (w.size = 2 * w.range + 1 ∧ w.range ≤ w.x ∧ w.range ≤ w.y ∧
        ∀ column ≤ 2 * w.range, ∀ row ≤ 2 * w.range,
          w.x - w.range + column < photo.width ∧ w.y - w.range + row < photo.height) ∧
      (w.verticalEdge photo = ∅ ∨ w.horizontalEdge photo = ∅ → offset = .zero) ∧
      ((w.verticalEdge photo).Nonempty → (w.horizontalEdge photo).Nonempty →
        ∃ column row : Nat, IsEdgeColumn (w.verticalEdge photo) column ∧
          IsEdgeRow (w.horizontalEdge photo) row ∧
          offset.dx + w.range = column ∧ offset.dy + w.range = row) ∧
      (0 ≤ w.x + offset.dx ∧ w.x + offset.dx < photo.width) ∧
      (0 ≤ w.y + offset.dy ∧ w.y + offset.dy < photo.height)) ∧
    (|offset.dx| ≤ w.range - 1 ∧ |offset.dy| ≤ w.range - 1) ∧
    ∀ photo' : RgbaImage,
      (w.Fits photo'.width photo'.height ↔ w.Fits photo.width photo.height) →
      (∀ x y, w.x - w.range ≤ x → x ≤ w.x + w.range → w.y - w.range ≤ y →
        y ≤ w.y + w.range → photo'.pixel x y = photo.pixel x y) →
      w.detect photo' = w.detect photo := by
  intro offset
  have left := w.range_le_x
  have top := w.range_le_y
  have inner : |offset.dx| ≤ w.range - 1 ∧ |offset.dy| ≤ w.range - 1 := by
    by_cases fits : w.Fits photo.width photo.height
    · exact abs_detect_le_of_fits narrow fits held
    · have positive := w.one_le_range
      simp only [offset, detect_of_not_fits fits held, Offset.zero, abs_zero]
      omega
  refine ⟨fun out => congrArg Prod.fst (detect_of_not_fits out held), fun fits => ?_, inner,
    fun photo' both same => ?_⟩
  · obtain ⟨right, bottom⟩ := id fits
    obtain ⟨horizontal, vertical⟩ := inner
    rw [abs_le] at horizontal vertical
    refine ⟨⟨size_of_fits narrow fits, left, top, fun column hc row hr => by omega⟩,
      fun none => detect_of_no_edge narrow fits none held, fun someVertical someHorizontal => ?_, by omega, by omega⟩
    obtain ⟨column, hc⟩ := (marks_verticalEdges narrow fits).exists_isEdgeColumn someVertical
    obtain ⟨row, hr⟩ := (marks_horizontalEdges narrow fits).exists_isEdgeRow someHorizontal
    have found : offset = ⟨(column : Int) - w.range, (row : Int) - w.range⟩ :=
      detect_of_edges narrow fits hc hr held
    exact ⟨column, row, hc, hr, by rw [found]; simp, by rw [found]; simp⟩
  · by_cases fits : w.Fits photo.width photo.height
    · exact detect_congr fits (both.2 fits) same
    · funext held
      rw [detect_of_not_fits fits, detect_of_not_fits (mt both.1 fits)]

end DriftWindow

namespace Sample

/-- Brighter and brighter to the right and downward, by turns. -/
def slope : RgbaImage := Image.ofFn 8 7 fun x y => Rgba.gray (UInt8.ofNat (40 * min x y))

def window : DriftWindow :=
  ⟨3, 2, 2, by decide, by decide, by decide, by decide, by decide⟩

/-- The rows of the slope end their vertical edge in different columns. -/
theorem detect_finds_edges_slope :
    IsEdgeColumn (window.verticalEdge slope) 1 ∧ IsEdgeRow (window.horizontalEdge slope) 1 ∧
      (window.detect slope none).1 = ⟨-1, -1⟩ := by
  have offset : (window.detect slope none).1 = ⟨-1, -1⟩ := by decide +kernel
  have narrow : (slope.width : Int) ≤ Region.maxCoordinate := by decide
  have fits : window.Fits slope.width slope.height := by decide
  have vertical : (window.verticalEdge slope).Nonempty :=
    ⟨(2, 4), by decide, by decide +kernel⟩
  have horizontal : (window.horizontalEdge slope).Nonempty :=
    ⟨(2, 1), by decide, by decide +kernel⟩
  obtain ⟨column, row, hc, hr, dx, dy⟩ :=
    ((window.detect_finds_edges slope none narrow).2.1 fits).2.2.1 vertical horizontal
  rw [offset] at dx dy
  have column_eq : column = 1 := Int.ofNat_inj.1 (dx.symm.trans (by decide))
  have row_eq : row = 1 := Int.ofNat_inj.1 (dy.symm.trans (by decide))
  exact ⟨column_eq ▸ hc, row_eq ▸ hr, offset⟩

end Sample
end MeterSight
