import MeterSight.Cleaning
import MeterSight.Drift
import MeterSight.Ocr.Engine
import MeterSight.Reading.Tally

/-!
# Recognizers

A recognizer reads a set of regions off the photo. It sets up an engine for the cycle, shows it the
cleaned photo, searches each region for words, and lets the engine go again.
-/
namespace MeterSight

/-- Reads characters with an engine. -/
structure TextRecognizer where
  regions : List Region
  curve : GammaCurve
  settings : EngineSettings
  regions_ne_nil : regions ≠ []

/-- A way of reading, with the regions to read. -/
inductive Recognizer where
  | text (r : TextRecognizer)
  | needle (regions : List Region)

/-- What an engine found in one region. -/
structure Glimpse where
  region : Region
  rect : Rect
  words : List Word

/-- What a recognizer saw: each region with the word it goes by, and the frames so far where frames
are collected. -/
structure Sighting where
  observations : List Observation
  frames : Option (List Frame)

/-- A word needs more confidence than this. -/
def wordThreshold : Float := 15.0

/-- The first word with enough confidence counts, even if a later one has more. -/
def acceptedWord (words : List Word) : Option Word := words.find? (wordThreshold < ·.confidence)

theorem acceptedWord_eq_some_iff {words : List Word} {word : Word} :
    acceptedWord words = some word ↔ wordThreshold < word.confidence ∧
      ∃ before after, words = before ++ word :: after ∧
        ∀ w ∈ before, ¬ wordThreshold < w.confidence := by
  simp [acceptedWord, List.find?_eq_some_iff_append]

namespace Glimpse

def observation (g : Glimpse) : Observation := ⟨g.region, acceptedWord g.words⟩

/-- The color of search rectangles. -/
def searchColor : Rgba := ⟨0, 0, 255, 255⟩

/-- The color of word boxes. -/
def wordColor : Rgba := ⟨0, 200, 0, 255⟩

/-- The cleaned photo with all search rectangles, and all word boxes over them. -/
def frame (paper : GrayImage) (glimpses : List Glimpse) : Frame where
  title := "tesseract boxes"
  image := paper.toRgba
  marks := Mark.borders (glimpses.map rect) searchColor ++
    Mark.borders (glimpses.flatMap fun g => g.words.map Word.bounds) wordColor

end Glimpse

namespace Sighting

/-- Nothing to see. -/
def nothing (frames : Option (List Frame)) : Sighting := ⟨[], frames⟩

/-- None of the regions can be read. -/
def blind (regions : List Region) (frames : Option (List Frame)) : Sighting :=
  ⟨regions.map (⟨·, none⟩), frames⟩

/-- Every region could be read. -/
def complete (s : Sighting) : Bool := s.observations.all (·.word.isSome)

end Sighting

namespace TextRecognizer
variable {σ : Type}

/-- A recognizer for some regions. Where each shows one character, the engine looks for just
that. -/
def new? (regions : List Region) (curve : GammaCurve) (language executable : String)
    (dataDirectory : Option String) : Except ConfigError TextRecognizer :=
  if h : regions = [] then .error .recognizerWithoutRegions
  else .ok {
    regions
    curve
    settings := {
      language
      whitelist := meterCharacters
      segmentation := if regions.all Region.digit then .singleChar else .singleBlock
      executable
      dataDirectory }
    regions_ne_nil := h }

/-- The part of a photo around all regions, unless they are open on all sides or it has no
pixels. -/
def part? (r : TextRecognizer) (offset : Offset) (photo : RgbaImage) : Option Rect :=
  let bounds := boundsOf r.regions
  if bounds.IsOpen then none
  else (some (bounds.rect offset photo.width photo.height)).filter (¬ ·.IsEmpty)

/-- Where a region lies on the cleaned part. -/
def searchRect (part : Option Rect) (offset : Offset) (paper : GrayImage) (region : Region) :
    Rect :=
  let corner := part.elim (0, 0) fun p => (p.left, p.top)
  region.bounds.rectIn offset corner.1 corner.2 paper.width paper.height

/-- Searches one region for words. No words are found outside of the image, or when the engine
fails. -/
def look (b : Backend σ) (rect : Rect) (region : Region) : StateM σ Glimpse :=
  if rect.IsEmpty then return ⟨region, rect, []⟩
  else do
    b.setRectangle rect
    match ← b.recognize with
    | .ok words => return ⟨region, rect, words⟩
    | .error _ => return ⟨region, rect, []⟩

/-- Searches regions one after the other. -/
def lookAll (b : Backend σ) (place : Region → Rect) : List Region → StateM σ (List Glimpse)
  | [] => return []
  | region :: more => do
    let first ← look b (place region) region
    return first :: (← lookAll b place more)

/-- Shows the engine the cleaned photo and searches it. -/
def search (b : Backend σ) (r : TextRecognizer) (photo : RgbaImage) (offset : Offset)
    (frames : Option (List Frame)) : StateM σ Sighting := do
  let part := r.part? offset photo
  let paper := clean r.curve part ⟨photo, frames⟩
  match ← b.setImage paper.image with
  | .error _ => return .blind r.regions paper.frames
  | .ok () =>
    let glimpses ← lookAll b (searchRect part offset paper.image) r.regions
    let marked := paper.note (Glimpse.frame paper.image glimpses)
    return ⟨glimpses.map Glimpse.observation, marked.frames⟩

/-- Reads the regions of a photo with an engine of its own. It fails only if none can be had. -/
def sight (b : Backend σ) (r : TextRecognizer) (photo : RgbaImage) (offset : Offset)
    (frames : Option (List Frame)) : StateM σ (Except MeterError Sighting) := do
  match ← b.create r.settings with
  | .error e => return .error e
  | .ok () =>
    let sighting ← search b r photo offset frames
    b.release
    return .ok sighting

end TextRecognizer

namespace Recognizer
variable {σ : Type}

def kind : Recognizer → RecognizerKind
  | text _ => .tesseract
  | needle _ => .needle

def regions : Recognizer → List Region
  | text r => r.regions
  | needle regions => regions

/-- Reads the regions of a photo. Needles are not read so far. -/
def sight (b : Backend σ) (photo : RgbaImage) (offset : Offset) (frames : Option (List Frame)) :
    Recognizer → StateM σ (Except MeterError Sighting)
  | text r => r.sight b photo offset frames
  | needle _ => return .ok (.nothing frames)

end Recognizer
end MeterSight
