import MeterSight.Recognizer
import MeterSight.Settings.Basic

/-!
# The meaning of settings

Whether settings make sense, and the regions, curves and recognizers they describe. Of several
faults the first in the order of the settings is told.
-/
namespace MeterSight

namespace RegionSettings

/-- The region that is described. -/
def region (s : RegionSettings) : Except ConfigError Region := do
  let some identifier := s.identifier | throw .missingIdentifier
  let box := s.box.getD .allOpen
  let plain ← Region.whole? identifier
  (((plain.withConfidenceId s.confidenceId).withScaler s.scaler.toInt).withDigit s.digit).withBox
    box.x1.toInt box.y1.toInt box.x2.toInt box.y2.toInt

end RegionSettings

namespace RecognizerSettings

/-- The gamma curve that is described. -/
def curve (s : RecognizerSettings) : Except ConfigError GammaCurve :=
  GammaCurve.new? (s.gamma.getD GammaCurve.standard.gamma)
    (s.black.getD GammaCurve.standard.black) (s.white.getD GammaCurve.standard.white)

/-- The regions that are described, at least one. -/
def regionList (s : RecognizerSettings) : Except ConfigError (List Region) :=
  if s.regions = [] then .error (.noRegions s.kind) else s.regions.mapM RegionSettings.region

/-- The recognizer that is described. The curve matters only where there is an image to clean. -/
def recognizer (s : RecognizerSettings) : Except ConfigError Recognizer := do
  let regions ← s.regionList
  match s.kind with
  | .needle => return .needle regions
  | .tesseract =>
    let curve ← s.curve
    return .text (← TextRecognizer.new? regions curve (s.language.getD defaultLanguage)
      (s.executable.getD defaultExecutable) s.dataDirectory)

end RecognizerSettings

namespace Settings

/-- The photo to read. -/
def photoFile (s : Settings) : Except ConfigError String :=
  match s.file with
  | some file => if file = "" then .error .missingFile else .ok file
  | none => .error .missingFile

/-- The search window for drift, if one is described that makes sense. -/
def window? (s : Settings) : Option DriftWindow :=
  match s.drift with
  | some ⟨some range, some x, some y⟩ => DriftWindow.new? range.toInt x.toInt y.toInt
  | _ => none

/-- The recognizers. Regions without one get one for characters, if no other is described. -/
def recognizerList (s : Settings) : Except ConfigError (List RecognizerSettings) :=
  if s.recognizers.isEmpty = false then .ok s.recognizers
  else if s.regions.isEmpty then .error .noRecognizer
  else .ok [{ RecognizerSettings.ofKind .tesseract with regions := s.regions }]

end Settings
end MeterSight
