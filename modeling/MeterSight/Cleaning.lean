import MeterSight.GammaCurve
import MeterSight.Image.Neighborhood
import MeterSight.Image.Resize
import MeterSight.Stage

/-!
# Cleaning

How a photo becomes black ink on white paper: the part of interest is cut out, loses its color and
passes a chain of five stages.
-/
namespace MeterSight

namespace Image

/-- Declines an image without pixels. -/
def unlessEmpty (f : GrayImage → GrayImage) (img : GrayImage) : Option GrayImage :=
  if img.IsEmpty then none else some (f img)

/-- Applies a gamma curve, unless that makes no sense. -/
def applyGamma (c : GammaCurve) (img : GrayImage) : Option GrayImage :=
  if c.Unusable then none else some (img.map c.level)

/-- Half of the distance from `blur` to `v` is added to `v`; a half is rounded up. -/
def sharpened (v blur : UInt8) : UInt8 :=
  UInt8.ofNat (min 255 ((3 * v.toNat - blur.toNat + 1) / 2))

/-- Strengthens the contrast of each pixel to its surroundings. -/
def sharpen : GrayImage → Option GrayImage :=
  unlessEmpty fun img =>
    let blurred := img.boxAverage 3
    ofFn img.width img.height fun x y => sharpened (img.pixel x y) (blurred.pixel x y)

/-- The reduction of the image in which the background is estimated. -/
def backgroundReduction : Nat := 4

/-- The level where the background comes to lie. -/
def backgroundLevel : Nat := 200

/-- The image without its dark strokes, estimated on a reduced copy. -/
def background (img : GrayImage) : GrayImage :=
  let reduced (n : Nat) : Nat := (n + backgroundReduction - 1) / backgroundReduction
  ((img.resize .nearest (reduced img.width) (reduced img.height)).close 2).resize .triangle
    img.width img.height

/-- Scales a level so that the background becomes `backgroundLevel`. -/
def flattened (v ground : UInt8) : UInt8 :=
  UInt8.ofNat (min 255 (v.toNat * backgroundLevel / max ground.toNat 1))

/-- Evens out the light. -/
def flatten : GrayImage → Option GrayImage :=
  unlessEmpty fun img =>
    let ground := img.background
    ofFn img.width img.height fun x y => flattened (img.pixel x y) (ground.pixel x y)

/-- Averages each pixel with its neighbors. -/
def smooth : GrayImage → Option GrayImage := unlessEmpty (boxAverage 1)

/-- Levels below a threshold become ink, the others paper. -/
def binarize (threshold : UInt8) : GrayImage → Option GrayImage :=
  unlessEmpty (map fun v => if v < threshold then 0 else 255)

end Image

/-- Levels below this are ink. -/
def inkThreshold : UInt8 := 120

/-- The stages from a gray photo to ink on paper. -/
def cleaningStages (c : GammaCurve) : List Stage :=
  [⟨"gamma", Image.applyGamma c⟩, ⟨"unsharp mask", Image.sharpen⟩,
    ⟨"background normalization", Image.flatten⟩, ⟨"smooth", Image.smooth⟩,
    ⟨"binarize", Image.binarize inkThreshold⟩]

/-- Cleans a photo, or the part inside a rectangle that has pixels. -/
def clean (c : GammaCurve) (part : Option Rect) (photo : Passage Rgba) : Passage UInt8 :=
  let gray := match part.filter (¬ ·.IsEmpty) with
    | some r => (photo.convert (·.crop r) (Frame.ofColor "crop")).convert Image.toGray
        (Frame.ofGray "grayscale")
    | none => photo.convert Image.toGray (Frame.ofGray "grayscale")
  (cleaningStages c).foldl Passage.pass gray

end MeterSight
