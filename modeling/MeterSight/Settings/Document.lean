import MeterSight.Document.Json
import MeterSight.Document.Record
import MeterSight.Document.Toml
import MeterSight.Error
import MeterSight.Settings.Basic

/-!
# Settings as documents

Reading settings from documents of either format, and the document that says the same with all
fields present.
-/
namespace MeterSight

/-- An absent value is null. -/
def Document.ofOption {α : Type} (f : α → Document) : Option α → Document
  | none => .null
  | some a => f a

namespace DriftSettings

def ofDocument? (format : DocumentFormat) : Document → Option DriftSettings :=
  ((((RecordReader.start mk).andField (.optional "range" Document.int64?)).andField
    (.optional "x" Document.int64?)).andField (.optional "y" Document.int64?)).run format

def toDocument (s : DriftSettings) : Document :=
  let number := Document.ofOption fun n : Int64 => .integer n.toInt
  .table [("range", number s.range), ("x", number s.x), ("y", number s.y)]

end DriftSettings

namespace BoxSettings

def ofDocument? (format : DocumentFormat) : Document → Option BoxSettings :=
  let coordinate (name : String) : Field Int64 := .withDefault name Document.int64? (-1)
  (((((RecordReader.start mk).andField (coordinate "x1")).andField (coordinate "y1")).andField
    (coordinate "x2")).andField (coordinate "y2")).run format

def toDocument (s : BoxSettings) : Document :=
  .table [("x1", .integer s.x1.toInt), ("y1", .integer s.y1.toInt), ("x2", .integer s.x2.toInt),
    ("y2", .integer s.y2.toInt)]

end BoxSettings

namespace RegionSettings

def ofDocument? (format : DocumentFormat) : Document → Option RegionSettings :=
  (((((((RecordReader.start mk).andField (.optional "identifier" Document.string?)).andField
    (.optional "confidence_id" Document.string?)).andField
    (.optional "unit" Document.string?)).andField
    (.withDefault "scaler" Document.int32? 0)).andField
    (.withDefault "digit" Document.bool? false)).andField
    (.optional "box" (BoxSettings.ofDocument? format))).run format

def toDocument (s : RegionSettings) : Document :=
  .table [("identifier", .ofOption .string s.identifier),
    ("confidence_id", .ofOption .string s.confidenceId), ("unit", .ofOption .string s.unit),
    ("scaler", .integer s.scaler.toInt), ("digit", .bool s.digit),
    ("box", .ofOption BoxSettings.toDocument s.box)]

end RegionSettings

namespace RecognizerKind

/-- A kind is a string, or a record of one name that says nothing more: null in JSON, an empty
array or table in TOML. -/
def ofDocument? (format : DocumentFormat) : Document → Option RecognizerKind
  | .string name => ofName? name
  | .table [(name, d)] =>
    match format, d with
    | .json, .null => ofName? name
    | .toml, .array [] => ofName? name
    | .toml, .table [] => ofName? name
    | _, _ => none
  | _ => none

end RecognizerKind

namespace RecognizerSettings

def ofDocument? (format : DocumentFormat) : Document → Option RecognizerSettings :=
  (((((((((RecordReader.start mk).andField
    (.required "type" (RecognizerKind.ofDocument? format))).andField
    (.optional "gamma" Document.float?)).andField
    (.optional "gamma_min" Document.uint8?)).andField
    (.optional "gamma_max" Document.uint8?)).andField
    (.optional "language" Document.string?)).andField
    (.optional "tesseract" Document.string?)).andField
    (.optional "tessdata" Document.string?)).andField
    (.withDefault "boundingboxes"
      (Document.list? (RegionSettings.ofDocument? format)) [])).run format

def toDocument (s : RecognizerSettings) : Document :=
  let level := Document.ofOption fun v : UInt8 => .integer v.toNat
  .table [("type", .string s.kind.name), ("gamma", .ofOption .float s.gamma),
    ("gamma_min", level s.black), ("gamma_max", level s.white),
    ("language", .ofOption .string s.language), ("tesseract", .ofOption .string s.executable),
    ("tessdata", .ofOption .string s.dataDirectory),
    ("boundingboxes", .array (s.regions.map RegionSettings.toDocument))]

end RecognizerSettings

namespace Settings

def ofDocument? (format : DocumentFormat) : Document → Option Settings :=
  (((((((RecordReader.start mk).andField (.optional "file" Document.string?)).andField
    (.withDefault "rotate" Document.float? 0.0)).andField
    (.withDefault "debug" Document.bool? false)).andField
    (.omissible "autofix" (DriftSettings.ofDocument? format))).andField
    (.withDefault "recognizer"
      (Document.list? (RecognizerSettings.ofDocument? format)) [])).andField
    (.withDefault "boundingboxes"
      (Document.list? (RegionSettings.ofDocument? format)) [])).run format

def toDocument (s : Settings) : Document :=
  .table [("file", .ofOption .string s.file), ("rotate", .float s.rotation),
    ("debug", .bool s.debug), ("autofix", .ofOption DriftSettings.toDocument s.drift),
    ("recognizer", .array (s.recognizers.map RecognizerSettings.toDocument)),
    ("boundingboxes", .array (s.regions.map RegionSettings.toDocument))]

/-- Reads settings from a text. -/
def read (format : DocumentFormat) (text : List Char) : Except MeterError Settings :=
  match format with
  | .json =>
    match (Json.read? text).bind (ofDocument? .json) with
    | some s => .ok s
    | none => .error (.json text)
  | .toml =>
    match (Toml.read? text).bind (ofDocument? .toml) with
    | some s => .ok s
    | none => .error (.toml text)

/-- Writes settings as compact JSON. -/
def write (s : Settings) : String := Json.write s.toDocument

end Settings
end MeterSight
