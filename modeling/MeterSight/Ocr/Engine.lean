import MeterSight.Error
import MeterSight.Image.Basic
import MeterSight.Rect

/-!
# Engines

An engine finds words in a gray image. Which engine it is stays open: a backend is any state
together with the five things that can be asked of it. `Backend.traced` also writes down what was
asked and answered.
-/
namespace MeterSight

/-- A word that an engine found. -/
structure Word where
  text : String
  /-- From 0 to 100, of single precision. -/
  confidence : Float
  bounds : Rect

/-- What an engine may expect in a rectangle. -/
inductive Segmentation where
  | singleChar
  | singleBlock
  deriving DecidableEq, Repr

/-- How an engine is set up. -/
structure EngineSettings where
  language : String
  /-- The characters that may appear. -/
  whitelist : String
  segmentation : Segmentation
  /-- The program of the engine, for a backend that runs one. -/
  executable : String
  /-- Where that program finds its data, if not in its usual place. -/
  dataDirectory : Option String
  deriving DecidableEq, Repr

/-- The characters that a meter shows. -/
def meterCharacters : String := "0123456789.m"

/-- The program to run where none is named. -/
def defaultExecutable : String := "tesseract"

/-- The language where none is named. -/
def defaultLanguage : String := "eng"

/-- Something that provides engines, one at a time, and answers for the one that lives. -/
structure Backend (σ : Type) where
  /-- Starts an engine. -/
  create : EngineSettings → StateM σ (Except MeterError Unit)
  /-- Gives the engine an image, and takes back the rectangle set before. -/
  setImage : GrayImage → StateM σ (Except MeterError Unit)
  /-- Restricts the search to a rectangle. -/
  setRectangle : Rect → StateM σ Unit
  /-- Lists the words in reading order. -/
  recognize : StateM σ (Except MeterError (List Word))
  /-- Ends the engine. -/
  release : StateM σ Unit

/-- Something asked of a backend, and what it answered. -/
inductive EngineEvent where
  | create (settings : EngineSettings) (answer : Except MeterError Unit)
  | image (img : GrayImage) (answer : Except MeterError Unit)
  | rectangle (r : Rect)
  | recognize (answer : Except MeterError (List Word))
  | release

namespace Backend
variable {σ α : Type}

/-- Does one step and writes down the event that its answer makes. -/
def record (event : α → EngineEvent) (step : StateM σ α) : StateM (σ × List EngineEvent) α :=
  fun (s, events) =>
    let (a, t) := step s
    (a, t, events ++ [event a])

/-- The same backend, writing down what is asked of it and answered. -/
def traced (b : Backend σ) : Backend (σ × List EngineEvent) where
  create settings := record (.create settings) (b.create settings)
  setImage img := record (.image img) (b.setImage img)
  setRectangle r := record (fun _ => .rectangle r) (b.setRectangle r)
  recognize := record .recognize b.recognize
  release := record (fun _ => .release) b.release

@[simp] theorem record_apply (event : α → EngineEvent) (step : StateM σ α) (s : σ)
    (events : List EngineEvent) :
    record event step (s, events) = ((step s).1, (step s).2, events ++ [event (step s).1]) := rfl

end Backend
end MeterSight
