import MeterSight.Codec.Bmp
import MeterSight.Codec.Png
import MeterSight.Image.Mark

/-!
# Libraries of images

Which formats of picture files can be read, and how a mark is drawn, is left to a library. All that
is asked of one is that it keeps to a limit on the room that a picture takes, that drawing does not
change the size of an image, and that it comes to an end with every mark that is within reach.
-/
namespace MeterSight

/-- A format of picture files. -/
inductive PictureFormat where
  | png
  | bmp
  deriving DecidableEq, Repr

namespace PictureFormat

/-- The format with an extension in small letters. -/
def ofExtension? (extension : List Char) : Option PictureFormat :=
  if extension = "png".toList ∨ extension = "apng".toList then some png
  else if extension = "bmp".toList then some bmp
  else none

def encode : PictureFormat → RgbaImage → ByteArray
  | png => Png.encode
  | bmp => Bmp.encode

end PictureFormat

/-- A library that reads pictures and draws on them. -/
class ImageLibrary where
  /-- The picture in a file, by the extension of its name in small letters. -/
  decode? : List Char → ByteArray → Option RgbaImage
  /-- The image with a mark over it. There may be marks with which drawing never comes to an end. -/
  draw? : Mark → RgbaImage → Option RgbaImage
  side_le_of_decode? {extension : List Char} {file : ByteArray} {img : RgbaImage} :
    decode? extension file = some img →
      img.width ≤ Codec.roomLimit ∧ img.height ≤ Codec.roomLimit
  size_of_draw? {m : Mark} {img drawn : RgbaImage} :
    draw? m img = some drawn → drawn.width = img.width ∧ drawn.height = img.height
  isSome_draw? {m : Mark} (img : RgbaImage) : m.IsWithinReach → (draw? m img).isSome

namespace ImageLibrary

/-- Drawing comes to an end with every mark, wherever it lies: what lies on the image is drawn, and
the rest is left out. A cycle that is diagnosed relies on that. -/
def AlwaysDraws [ImageLibrary] : Prop := ∀ (m : Mark) (img : RgbaImage), (draw? m img).isSome

/-- Reads two formats, and draws what is within reach. -/
instance : ImageLibrary where
  decode? extension file :=
    match PictureFormat.ofExtension? extension with
    | some .png => Png.decode? file
    | some .bmp => Bmp.decode? file
    | none => none
  draw? m img := if m.IsWithinReach then some (m.paint img) else none
  side_le_of_decode? read := by
    split at read
    · exact Png.side_le_of_decode? read
    · exact Bmp.side_le_of_decode? read
    · cases read
  size_of_draw? drawn := by
    split at drawn
    · exact Option.some.inj drawn ▸ ⟨rfl, rfl⟩
    · cases drawn
  isSome_draw? img near := by simp [near]

end ImageLibrary
end MeterSight
