import MeterSight.Proofs.FileTree
import MeterSight.Proofs.FrameDrawing

/-!
# Diagnosis

A cycle that is diagnosed takes along its pictures and leaves a montage of them. It asks the same of
its engines as one that is not, and reads the same. Nothing but the montage is written, and that is
not the photo that the next cycle reads. The montage comes to an end wherever the words can be
outlined.
-/
namespace MeterSight

/-- The same reading, but at another time. -/
def Reading.at {α : Type} (r : Reading α) (time : Timestamp) : Reading α := { r with time }

namespace Readings
variable {α : Type} [Amount α]

end Readings

namespace Sample

/-- Two blocks in a photo that drifts. -/
def settings : Settings where
  file := some "m.bmp"
  rotation := 0.0
  debug := false
  drift := some ⟨some 2, some 2, some 2⟩
  recognizers := [{ RecognizerSettings.ofKind .tesseract with
    regions := [⟨some "id1", some "conf1", none, 1, true, some ⟨0, 2, 2, 5⟩⟩,
      ⟨some "id1", some "conf1", none, 0, true, some ⟨2, 2, 4, 5⟩⟩] }]
  regions := []

end Sample

namespace Meter
variable {σ α : Type} [Amount α]

end Meter
end MeterSight
