import MeterSight.Ocr.Program
import MeterSight.Proofs.DriftCompensation
import MeterSight.Proofs.TableRows

/-!
# What is in force for an engine program

A living engine may be asked for anything in any order. What it does when it searches hangs on two
things only: the latest image that it was given, and the latest rectangle that was set since. A
search changes neither, whether it ends well, ends badly or cannot even begin because the picture
for the program is not saved.
-/
namespace MeterSight

/-- Something asked of an engine that lives. -/
inductive EngineRequest where
  | image (img : GrayImage)
  | rectangle (r : Rect)
  | recognize

namespace EngineRequest
variable {σ : Type}

end EngineRequest

namespace ProgramEngine
variable {σ : Type}

/-- What an engine holds after a request. -/
def after (e : ProgramEngine) : EngineRequest → ProgramEngine
  | .image img => e.setImage img
  | .rectangle r => e.setRectangle r
  | .recognize => e

end ProgramEngine

/-! ## Pictures for a program -/

namespace WordTable

end WordTable

/-! ## Searches -/

namespace ProgramEngine
variable {σ : Type} {e : ProgramEngine} {img : GrayImage} {rect : Rect}

end ProgramEngine

namespace ProgramSystem
variable {σ : Type} {settings : EngineSettings} {s₀ s₁ : Option ProgramEngine × σ}

end ProgramSystem

namespace Sample

/-- A table with one word. -/
def table : List UInt8 :=
  "heading\n5\t1\t1\t1\t1\t1\t2\t3\t4\t5\t90\t7".toList.map fun c => c.val.toUInt8

/-- A system on which every program prints the same, and nothing gets in the way. -/
def printing (output : List UInt8) : ProgramSystem Unit where
  run _ := return .finished true output []
  makeScratch := return .ok ()
  savePicture _ := return .ok ()
  removeScratch := return

end Sample
end MeterSight
