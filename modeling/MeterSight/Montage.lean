import MeterSight.Files
import MeterSight.Image.Blend

/-!
# Montage

The intermediate pictures of a cycle, stacked on one canvas to look at. Nothing is ever read back
from it.
-/
namespace MeterSight

/-- A titled picture, with marks that are yet to be drawn on it. -/
structure Frame where
  title : String
  image : RgbaImage
  marks : List Mark

namespace Frame

/-- A color picture without marks. -/
def ofColor (title : String) (img : RgbaImage) : Frame := ⟨title, img, []⟩

/-- A gray picture without marks. -/
def ofGray (title : String) (img : GrayImage) : Frame := ofColor title img.toRgba

/-- The picture with its marks, one over the other, unless drawing them never comes to an end. -/
def render? [ImageLibrary] (f : Frame) : Option RgbaImage :=
  f.marks.foldlM (fun img m => ImageLibrary.draw? m img) f.image

end Frame

/-- Why there is no montage. -/
inductive MontageError where
  /-- No canvas has room for all pictures. -/
  | tooLarge
  | unwritable (cause : MeterError)

namespace Montage

/-- The rows between two pictures. -/
def gap : Nat := 4

/-- What shows where no picture is. -/
def backdrop : Rgba := ⟨128, 128, 128, 255⟩

/-- The most bytes that a canvas may take. A pixel takes four. -/
def canvasLimit : Nat := 0x7FFFFFFFFFFFFFFF

/-- The height of stacked pictures. Heights are counted with 32 bits. -/
def stackHeight (images : List RgbaImage) : Nat :=
  ((images.map Image.height).foldr (· + ·) 0 + gap * (images.length - 1)) % 0x100000000

/-- The width of the widest picture. -/
def stackWidth (images : List RgbaImage) : Nat := (images.map Image.width).max?.getD 0

/-- A canvas of a given size with nothing on it. -/
def canvas (width height : Nat) : Except MontageError RgbaImage :=
  if canvasLimit < 4 * width * height then .error .tooLarge
  else .ok (Image.filled width height backdrop)

/-- Lays pictures over a canvas, from a row of it downwards. -/
def stack : List RgbaImage → Nat → RgbaImage → RgbaImage
  | [], _, canvas => canvas
  | img :: below, row, canvas =>
    stack below (row + (img.height + gap) % 0x100000000) (canvas.layOver img row)

/-- The canvas with all pictures from top to bottom; none without pictures. -/
def compose (images : List RgbaImage) : Except MontageError (Option RgbaImage) :=
  if images = [] then .ok none
  else (canvas (max (stackWidth images) 1) (max (stackHeight images) 1)).map
    fun bare => some (stack images 0 bare)

/-- Writes the canvas to a file. Nothing is written without pictures. -/
def write (files : Files) (path : String) (images : List RgbaImage) : Except MontageError Files := do
  match ← compose images with
  | none => return files
  | some img =>
    match files.writePicture? path img with
    | some files => return files
    | none => .error (.unwritable (.image (files.writingFault path)))

/-- The montage lies beside its photo. -/
def path (photo : String) : String := photo ++ "_debug.png"

end Montage
end MeterSight
