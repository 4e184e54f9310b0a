import MeterSight.Image.Rotation
import MeterSight.Reading.Report
import MeterSight.Settings.Meaning

/-!
# Meters

A meter reads its photo once per cycle: it turns the photo, finds how far it has drifted, lets
every recognizer look at it and adds up what they saw. Nothing is kept between cycles.
-/
namespace MeterSight

structure Meter where
  file : String
  rotation : Float
  debug : Bool
  window : Option DriftWindow
  recognizers : List Recognizer

/-- The meter that settings describe. -/
def Settings.meter (s : Settings) : Except ConfigError Meter := do
  let file ← s.photoFile
  let recognizers ← (← s.recognizerList).mapM RecognizerSettings.recognizer
  return {
    file
    rotation := s.rotation
    debug := s.debug
    window := s.window?
    recognizers }

namespace Meter
variable {σ : Type}

/-- The color of the search window. -/
def windowColor : Rgba := ⟨255, 0, 0, 255⟩

/-- The color of the moved anchor. -/
def anchorColor : Rgba := ⟨0, 200, 0, 255⟩

/-- The search window and the moved anchor, if the window fits. -/
def windowMarks (window : Option DriftWindow) (photo : RgbaImage) (offset : Offset) : List Mark :=
  match window with
  | none => []
  | some w =>
    if w.Fits photo.width photo.height then
      Mark.borders [w.rect] windowColor ++ [.cross (w.x + offset.dx) (w.y + offset.dy) anchorColor]
    else []

/-- The drift of a turned photo. Where frames are collected, those that show it are put behind the
others. -/
def drift (m : Meter) (photo : RgbaImage) (frames : Option (List Frame)) :
    Offset × Option (List Frame) :=
  let (offset, frames) := m.window.elim (.zero, frames) (·.detect photo frames)
  (offset, frames.map (· ++ [⟨"source", photo, windowMarks m.window photo offset⟩]))

/-- Lets recognizers look at a photo in order. A fatal error stops them; any other only costs the
sighting of one. -/
def sightAll (b : Backend σ) (photo : RgbaImage) (offset : Offset) :
    List Recognizer → Option (List Frame) → StateM σ (Except MeterError Sighting)
  | [], frames => return .ok (.nothing frames)
  | r :: more, frames => do
    match ← r.sight b photo offset frames with
    | .ok first =>
      match ← sightAll b photo offset more first.frames with
      | .ok rest => return .ok ⟨first.observations ++ rest.observations, rest.frames⟩
      | .error e => return .error e
    | .error e => if e.isFatal then return .error e else sightAll b photo offset more frames

/-- Everything that is seen on a photo. Frames are collected for a montage only. -/
def observe (b : Backend σ) (m : Meter) (photo : RgbaImage) :
    StateM σ (Except MeterError Sighting) := do
  let photo := photo.rotate m.rotation
  let (offset, frames) := m.drift photo (if m.debug then some [] else none)
  sightAll b photo offset m.recognizers frames

/-- Tries to open the photo file. Each cycle opens it again, so that a failure does not matter. -/
def tryOpen (m : Meter) (files : Files) : Except MeterError Unit :=
  match files.opened m.file with
  | .ok _ => .ok ()
  | .error cause => .error (.io cause)

/-- Writes the montage of a cycle beside the photo. It does not matter whether that succeeds, but
it may never come to an end. -/
def keepFrames [ImageLibrary] (m : Meter) (files : Files) (frames : List Frame) :
    Option Files := do
  let images ← frames.mapM Frame.render?
  match Montage.write files (Montage.path m.file) images with
  | .ok files => some files
  | .error (.unwritable _) => some files
  | .error .tooLarge => none

/-- The result of a cycle, and the files after it. There are none if it never comes to an end. -/
structure Cycle (α : Type) where
  readings : Except MeterError (List (Reading α))
  files : Option Files

/-- Runs one cycle for at most `limit` readings. Without a readable photo there are none. -/
def read {α : Type} [Amount α] [ImageLibrary] (b : Backend σ) (m : Meter) (files : Files)
    (limit : Nat) (time : Timestamp) : StateM σ (Cycle α) := do
  if limit = 0 then return ⟨.ok [], some files⟩
  else
    match files.picture? m.file with
    | none => return ⟨.ok [], some files⟩
    | some photo =>
      match ← m.observe b photo with
      | .error e => return ⟨.error e, some files⟩
      | .ok s =>
        return ⟨.ok ((Readings.empty.noteAll s.observations).emit limit time),
          s.frames.elim (some files) (m.keepFrames files)⟩

end Meter
end MeterSight
