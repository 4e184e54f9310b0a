import MeterSight.RecognizerKind

/-!
# Settings

What a configuration text says, before it is checked whether it makes sense.
-/
namespace MeterSight

/-- The search window for drift: its reach and its center. -/
structure DriftSettings where
  range : Option Int64
  x : Option Int64
  y : Option Int64
  deriving DecidableEq, Repr

/-- The coordinates of a box; a negative one leaves the side open. -/
structure BoxSettings where
  x1 : Int64
  y1 : Int64
  x2 : Int64
  y2 : Int64
  deriving DecidableEq, Repr

/-- All sides open. -/
def BoxSettings.allOpen : BoxSettings := ⟨-1, -1, -1, -1⟩

/-- One region. The unit is for people only. -/
structure RegionSettings where
  identifier : Option String
  confidenceId : Option String
  unit : Option String
  scaler : Int32
  digit : Bool
  box : Option BoxSettings
  deriving DecidableEq, Repr

/-- A recognizer and its regions. -/
structure RecognizerSettings where
  kind : RecognizerKind
  gamma : Option Float
  black : Option UInt8
  white : Option UInt8
  language : Option String
  /-- The program of the engine. -/
  executable : Option String
  /-- Where the program finds its data. -/
  dataDirectory : Option String
  regions : List RegionSettings

/-- A recognizer of which nothing but its kind is known. -/
def RecognizerSettings.ofKind (kind : RecognizerKind) : RecognizerSettings :=
  ⟨kind, none, none, none, none, none, none, []⟩

/-- A whole configuration. -/
structure Settings where
  /-- The photo that is read every cycle. -/
  file : Option String
  /-- How far to turn the photo clockwise, in degrees. -/
  rotation : Float
  /-- Whether to write a montage every cycle. -/
  debug : Bool
  drift : Option DriftSettings
  recognizers : List RecognizerSettings
  /-- Regions without a recognizer of their own, in the older form of configurations. -/
  regions : List RegionSettings

end MeterSight
