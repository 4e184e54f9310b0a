import MeterSight.Montage

/-!
# Chains of stages

An image on its way through steps that each make a new one. Where frames are collected, they are
taken along, and every image that is made is put behind them as a frame. A stage may also decline;
then the image stays, and there is no frame.
-/
namespace MeterSight

/-- A titled step of a chain. -/
structure Stage where
  title : String
  apply : GrayImage → Option GrayImage

/-- An image under way, with the frames so far where frames are collected. -/
structure Passage (α : Type) where
  image : Image α
  frames : Option (List Frame)

namespace Passage
variable {α β : Type}

/-- Puts a frame behind the others. -/
def note (frame : Frame) (p : Passage α) : Passage α :=
  { p with frames := p.frames.map (· ++ [frame]) }

/-- A stage replaces the image by the one it makes, which is noted then, or leaves all as it is. -/
def pass (p : Passage UInt8) (stage : Stage) : Passage UInt8 :=
  match stage.apply p.image with
  | some next => note (Frame.ofGray stage.title next) { p with image := next }
  | none => p

/-- Replaces the image by one of another kind, which is noted then. -/
def convert (f : Image α → Image β) (frame : Image β → Frame) (p : Passage α) : Passage β :=
  note (frame (f p.image)) ⟨f p.image, p.frames⟩

end Passage
end MeterSight
