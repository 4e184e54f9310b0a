import MeterSight.Proofs.DriftDetection

/-!
# The corner of the frame

A frame whose corner has moved by less than the reach of the window is found exactly where it is.
Its vertical edge shows in the rows below the corner alone and its horizontal edge in the columns to
the right of it, each as a single line of pixels, so both scans have no choice.
-/
namespace MeterSight

theorem isEdgeColumn_of_line {edge : Set (Nat × Nat)} {column : Nat} (some : edge.Nonempty)
    (line : ∀ p ∈ edge, p.1 = column) : IsEdgeColumn edge column := by
  obtain ⟨⟨c, row⟩, mem⟩ := some
  obtain rfl : c = column := line _ mem
  refine ⟨⟨row, mem, fun other h => (line _ h).le⟩, ?_⟩
  rintro last ⟨row', greatest⟩
  exact (line _ greatest.1).ge

theorem isEdgeRow_of_line {edge : Set (Nat × Nat)} {row : Nat} (some : edge.Nonempty)
    (line : ∀ p ∈ edge, p.2 = row) : IsEdgeRow edge row := by
  obtain ⟨⟨column, t⟩, mem⟩ := some
  obtain rfl : t = row := line _ mem
  refine ⟨⟨column, mem, fun other h => (line _ h).ge⟩, ?_⟩
  rintro first ⟨column', least⟩
  exact (line _ least.1).le

/-! ## The levels of a corner -/

/-- Dark before a place, of a middle level at it, and bright behind it. -/
def ramp (dark middle bright : UInt8) (place position : Nat) : UInt8 :=
  if position < place then dark else if position = place then middle else bright

/-- The level of a pixel beside a corner that is bright to the right of it and below. -/
def cornerLevel (dark middle bright : UInt8) (cornerX cornerY x y : Nat) : UInt8 :=
  min (ramp dark middle bright cornerX x) (ramp dark middle bright cornerY y)

section levels
variable {dark middle bright : UInt8} (rise : dark.toNat + 40 ≤ middle.toNat)
  (rise' : middle.toNat + 40 ≤ bright.toNat)
include rise rise'

theorem toNat_cornerLevel (cornerX cornerY x y : Nat) :
    (cornerLevel dark middle bright cornerX cornerY x y).toNat =
      if x < cornerX ∨ y < cornerY then dark.toNat
      else if x = cornerX ∨ y = cornerY then middle.toNat else bright.toNat := by
  simp only [cornerLevel, ramp, toNat_min]
  grind

/-- Along a row, the levels are steep at the column of the corner alone, and only below it. -/
theorem steep_row_iff (cornerX cornerY : Nat) {x : Nat} (hx : 1 ≤ x) (y : Nat) :
    Steep (cornerLevel dark middle bright cornerX cornerY (x - 1) y)
      (cornerLevel dark middle bright cornerX cornerY x y)
      (cornerLevel dark middle bright cornerX cornerY (x + 1) y) ↔ x = cornerX ∧ cornerY < y := by
  simp only [Steep, toNat_cornerLevel rise rise']
  grind

/-- Along a column, the levels are steep at the row of the corner alone, and only to its right. -/
theorem steep_column_iff (cornerX cornerY x : Nat) {y : Nat} (hy : 1 ≤ y) :
    Steep (cornerLevel dark middle bright cornerX cornerY x (y - 1))
      (cornerLevel dark middle bright cornerX cornerY x y)
      (cornerLevel dark middle bright cornerX cornerY x (y + 1)) ↔ y = cornerY ∧ cornerX < x := by
  simp only [Steep, toNat_cornerLevel rise rise']
  grind

end levels

namespace DriftWindow

/-- Inside of the window, the photo shows a corner. -/
def ShowsCorner (w : DriftWindow) (photo : RgbaImage) (dark middle bright : UInt8)
    (cornerX cornerY : Nat) : Prop :=
  ∀ x y, w.x - w.range ≤ x → x ≤ w.x + w.range → w.y - w.range ≤ y → y ≤ w.y + w.range →
    photo.pixel x y = Rgba.gray (cornerLevel dark middle bright cornerX cornerY x y)

section corner
variable {w : DriftWindow} {photo : RgbaImage} {dark middle bright : UInt8} {cornerX cornerY : Nat}
  (shows : w.ShowsCorner photo dark middle bright cornerX cornerY)
include shows

theorem level_of_corner {column row : Nat} (hc : column ≤ 2 * w.range) (hr : row ≤ 2 * w.range) :
    w.level photo column row = cornerLevel dark middle bright cornerX cornerY
      (w.x - w.range + column) (w.y - w.range + row) := by
  have left := w.range_le_x
  have top := w.range_le_y
  rw [level, shows _ _ (by omega) (by omega) (by omega) (by omega), Rgba.luma_gray]

variable (rise : dark.toNat + 40 ≤ middle.toNat) (rise' : middle.toNat + 40 ≤ bright.toNat)
include rise rise'

theorem mem_verticalEdge_of_corner (column row : Nat) :
    (column, row) ∈ w.verticalEdge photo ↔
      (1 ≤ column ∧ column ≤ 2 * w.range - 1 ∧ row ≤ 2 * w.range) ∧
        w.x - w.range + column = cornerX ∧ cornerY < w.y - w.range + row := by
  refine and_congr_right fun ⟨first, last, below⟩ => ?_
  have level {c : Nat} (h : c ≤ 2 * w.range) := level_of_corner shows h below
  rw [level (by omega), level (by omega), level (by omega), ← Nat.add_sub_assoc first]
  exact steep_row_iff rise rise' _ _ (by omega) _

theorem mem_horizontalEdge_of_corner (column row : Nat) :
    (column, row) ∈ w.horizontalEdge photo ↔
      (1 ≤ row ∧ row ≤ 2 * w.range - 1 ∧ column ≤ 2 * w.range) ∧
        w.y - w.range + row = cornerY ∧ cornerX < w.x - w.range + column := by
  refine and_congr_right fun ⟨first, last, right⟩ => ?_
  have level {t : Nat} (h : t ≤ 2 * w.range) := level_of_corner shows right h
  rw [level (by omega), level (by omega), level (by omega), ← Nat.add_sub_assoc first]
  exact steep_column_iff rise rise' _ _ _ (by omega)

end corner

/-- Whatever the photo shows outside of the window, the offset leads from the anchor to the corner
of the frame, as far as that has not moved to the rim of the window. -/
theorem detect_corner (w : DriftWindow) (photo : RgbaImage) (held : Option (List Frame))
    (narrow : (photo.width : Int) ≤ Region.maxCoordinate) (fits : w.Fits photo.width photo.height)
    {cornerX cornerY : Nat} (nearX : |(cornerX : Int) - w.x| ≤ w.range - 1)
    (nearY : |(cornerY : Int) - w.y| ≤ w.range - 1) {dark middle bright : UInt8}
    (rise : dark.toNat + 40 ≤ middle.toNat) (rise' : middle.toNat + 40 ≤ bright.toNat)
    (shows : w.ShowsCorner photo dark middle bright cornerX cornerY) :
    (w.detect photo held).1 = ⟨(cornerX : Int) - w.x, (cornerY : Int) - w.y⟩ := by
  have left := w.range_le_x
  have top := w.range_le_y
  rw [abs_le] at nearX nearY
  have vertical := mem_verticalEdge_of_corner shows rise rise'
  have horizontal := mem_horizontalEdge_of_corner shows rise rise'
  -- The last row and the last column of the window meet the edges, however far the corner is off.
  have column : IsEdgeColumn (w.verticalEdge photo) (cornerX - (w.x - w.range)) := by
    refine isEdgeColumn_of_line
      ⟨(cornerX - (w.x - w.range), 2 * w.range), (vertical _ _).2 ?_⟩ fun p mem => ?_
    · omega
    · have := (vertical p.1 p.2).1 mem
      omega
  have row : IsEdgeRow (w.horizontalEdge photo) (cornerY - (w.y - w.range)) := by
    refine isEdgeRow_of_line
      ⟨(2 * w.range, cornerY - (w.y - w.range)), (horizontal _ _).2 ?_⟩ fun p mem => ?_
    · omega
    · have := (horizontal p.1 p.2).1 mem
      omega
  rw [detect_of_edges narrow fits column row held, Offset.mk.injEq]
  omega

end DriftWindow

namespace Sample

def cornerWindow : DriftWindow :=
  { window with x := 4, y := 4, range_le_x := by decide, range_le_y := by decide,
                x_le := by decide, y_le := by decide }

/-- Steps of just forty levels in the window, and steeper ones around it. -/
def cornerPhoto : RgbaImage :=
  Image.ofFn 9 8 fun x y =>
    if 2 ≤ x ∧ x ≤ 6 ∧ 2 ≤ y ∧ y ≤ 6 then Rgba.gray (cornerLevel 20 60 100 5 3 x y)
    else ⟨UInt8.ofNat (97 * x), 255, UInt8.ofNat (89 * y), 0⟩

/-- The corner has moved as far as it can be followed, to the right and up. -/
theorem detect_corner_displaced : (cornerWindow.detect cornerPhoto none).1 = ⟨1, -1⟩ := by
  have shows : cornerWindow.ShowsCorner cornerPhoto 20 60 100 5 3 := by
    intro x y left right top bottom
    have inside : 2 ≤ x ∧ x ≤ 6 ∧ 2 ≤ y ∧ y ≤ 6 := ⟨left, right, top, bottom⟩
    rw [cornerPhoto, Image.pixel_ofFn _ (by omega) (by omega), if_pos inside]
  exact cornerWindow.detect_corner cornerPhoto none (by decide) (by decide) (by decide) (by decide)
    (by decide) (by decide) shows

end Sample
end MeterSight
