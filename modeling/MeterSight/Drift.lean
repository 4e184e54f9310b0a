import MeterSight.Montage
import MeterSight.Region

/-!
# Drift

Camera and meter move a little between photos. Around a configured anchor, such as the corner of
the frame of the digits, a square window is searched for a vertical and a horizontal edge; how far
they lie from the anchor is the offset of the photo.
-/
namespace MeterSight

/-- A square search window: its center and how far it reaches to each side. -/
structure DriftWindow where
  x : Nat
  y : Nat
  range : Nat
  one_le_range : 1 ≤ range
  range_le_x : range ≤ x
  range_le_y : range ≤ y
  x_le : (x : Int) ≤ Region.maxCoordinate
  y_le : (y : Int) ≤ Region.maxCoordinate
  deriving DecidableEq, Repr

/-- An edge this steep on both sides counts. -/
def edgeThreshold : UInt8 := 40

/-- The lesser of the two steps along three levels that rise twice or fall twice; else zero. -/
def twoSidedStep (before center after : UInt8) : UInt8 :=
  if before < center ∧ center < after then min (center - before) (after - center)
  else if center < before ∧ after < center then min (before - center) (center - after)
  else 0

namespace Image

/-- How steeply the levels change along each row; zero in the first and the last column. -/
def verticalEdges (img : GrayImage) : GrayImage :=
  ofFn img.width img.height fun x y =>
    if 1 ≤ x ∧ x + 1 < img.width then
      twoSidedStep (img.pixel (x - 1) y) (img.pixel x y) (img.pixel (x + 1) y)
    else 0

/-- How steeply the levels change along each column; zero in the first and the last row. -/
def horizontalEdges (img : GrayImage) : GrayImage :=
  ofFn img.width img.height fun x y =>
    if 1 ≤ y ∧ y + 1 < img.height then
      twoSidedStep (img.pixel x (y - 1)) (img.pixel x y) (img.pixel x (y + 1))
    else 0

end Image

namespace DriftWindow

/-- The window with the given range and center, if it can lie inside an image. -/
def new? (range x y : Int) : Option DriftWindow :=
  if h : 1 ≤ range ∧ range ≤ x ∧ range ≤ y ∧
      x ≤ Region.maxCoordinate ∧ y ≤ Region.maxCoordinate then
    some {
      x := x.toNat
      y := y.toNat
      range := range.toNat
      one_le_range := by omega
      range_le_x := by omega
      range_le_y := by omega
      x_le := by omega
      y_le := by omega }
  else none

/-- The side of the window, as far as a coordinate can count. -/
def size (w : DriftWindow) : Nat := min (2 * w.range + 1) Region.maxCoordinate.toNat

/-- The whole window lies inside an image of a given size. -/
def Fits (w : DriftWindow) (width height : Nat) : Prop :=
  w.x + w.range < width ∧ w.y + w.range < height

instance (w : DriftWindow) (width height : Nat) : Decidable (w.Fits width height) :=
  inferInstanceAs (Decidable (_ ∧ _))

/-- The pixels of the window. -/
def rect (w : DriftWindow) : Rect := ⟨w.x - w.range, w.y - w.range, w.size, w.size⟩

/-- The last column of each row that is on an edge, and of those the least. -/
def edgeColumn? (edges : GrayImage) (size : Nat) : Option Nat :=
  ((List.range size).filterMap fun row =>
    ((List.range size).filter fun col => edgeThreshold ≤ edges.pixel col row).getLast?).min?

/-- The first row of each column that is on an edge, and of those the greatest. -/
def edgeRow? (edges : GrayImage) (size : Nat) : Option Nat :=
  ((List.range size).filterMap fun col =>
    (List.range size).find? fun row => edgeThreshold ≤ edges.pixel col row).max?

/-- The offset of a photo. Nothing has moved where the window does not fit or shows no edges. Where
frames are collected, the edge pictures are put behind those so far. -/
def detect (w : DriftWindow) (img : RgbaImage) (frames : Option (List Frame)) :
    Offset × Option (List Frame) :=
  if w.Fits img.width img.height then
    let gray := (img.crop w.rect).toGray
    let vertical := gray.verticalEdges
    let horizontal := gray.horizontalEdges
    let frames := frames.map (· ++ [Frame.ofGray "autofix vertical edges" vertical,
      Frame.ofGray "autofix horizontal edges" horizontal])
    match edgeColumn? vertical w.size, edgeRow? horizontal w.size with
    | some x, some y => (⟨(x : Int) - w.range, (y : Int) - w.range⟩, frames)
    | _, _ => (.zero, frames)
  else (.zero, frames)

end DriftWindow
end MeterSight
