import MeterSight.Decimal.Layout
import MeterSight.RecognizerKind

/-!
# Errors

What can go wrong, by cause, and the wording. Only a configuration that makes no sense and an
engine that does not start are fatal.
-/
namespace MeterSight

/-- A direction in an image. -/
inductive Axis where
  | horizontal
  | vertical
  deriving DecidableEq, Repr

/-- The coordinate along an axis. -/
def Axis.coordinate : Axis → String
  | horizontal => "x"
  | vertical => "y"

/-- Why a configuration is refused. -/
inductive ConfigError where
  | missingFile
  | noRecognizer
  | noRegions (kind : RecognizerKind)
  | recognizerWithoutRegions
  | missingIdentifier
  | emptyIdentifier
  /-- The far end of the box of a region lies before the near end. -/
  | invertedBox (identifier : String) (axis : Axis) (near far : Nat)
  | gammaNotPositive (gamma : Float)
  | whiteNotAboveBlack (white black : UInt8)
  | stated (text : String)

/-- Why an engine does not start. -/
inductive EngineError where
  /-- The program cannot be run. -/
  | notStarted (program reason : String)
  /-- The program does not tell its version. -/
  | noVersion (program complaint : String)
  /-- There is no directory for the pictures that the program is to search. -/
  | noScratch (reason : String)
  | stated (text : String)

/-- Why a picture is not recognized. -/
inductive RecognitionError where
  | noImage
  | failedRun (complaint : String)
  | stated (text : String)

/-- Why a file cannot be opened or read. -/
inductive FileError where
  | missing
  /-- A step of the path leads on from something that is no directory. -/
  | notDirectory
  | isDirectory
  | nameTooLong
  | nulInPath
  | notUtf8
  /-- For a reason of the system. -/
  | stated (reason : String)
  deriving DecidableEq, Repr

/-- Why a picture is not written. -/
inductive ImageError where
  /-- There is no extension in the name of the file that tells a format. -/
  | unknownFormat (extension : Option String)
  | file (cause : FileError)
  deriving DecidableEq, Repr

/-- An error of a meter. The wording of the last four kinds is not its own. -/
inductive MeterError where
  | config (cause : ConfigError)
  | engine (cause : EngineError)
  | recognition (cause : RecognitionError)
  | image (cause : ImageError)
  | io (cause : FileError)
  /-- The document is no JSON, or not for settings. -/
  | json (document : List Char)
  /-- The document is no TOML, or not for settings. -/
  | toml (document : List Char)

/-- Doubles in messages never have an exponent. -/
def Decimal.plainLayout : Layout where
  positional _ := true
  tie := .greater
  wholeEnd := ""
  notANumber := "NaN"
  infinity := "inf"

/-- A double with the fewest digits and no exponent. -/
def Decimal.plainText (x : Float) : String := plainLayout.write x

def ConfigError.message : ConfigError → String
  | missingFile => "missing image file name ('file')"
  | noRecognizer => "no recognizer given"
  | noRegions kind => kind.name ++ " recognizer: no boundingboxes given"
  | recognizerWithoutRegions => "tesseract recognizer needs at least one boundingbox"
  | missingIdentifier => "boundingbox without identifier"
  | emptyIdentifier => "boundingbox identifier must not be empty"
  | invertedBox identifier axis near far =>
    "boundingbox <" ++ identifier ++ ">: " ++ axis.coordinate ++ "2 (" ++ toString far ++ ") < " ++
      axis.coordinate ++ "1 (" ++ toString near ++ ")"
  | gammaNotPositive gamma => "gamma must be positive, got " ++ Decimal.plainText gamma
  | whiteNotAboveBlack white black =>
    "gamma_max (" ++ toString white.toNat ++ ") must be above gamma_min (" ++
      toString black.toNat ++ ")"
  | stated text => text

def EngineError.message : EngineError → String
  | notStarted program reason => program ++ ": " ++ reason
  | noVersion program complaint => program ++ " --version failed: " ++ complaint
  | noScratch reason => "scratch directory: " ++ reason
  | stated text => text

def RecognitionError.message : RecognitionError → String
  | noImage => "no image set"
  | failedRun complaint => "tesseract failed: " ++ complaint
  | stated text => text

/-- How a system words why a file cannot be opened or read. -/
def FileError.message : FileError → String
  | missing => "No such file or directory (os error 2)"
  | notDirectory => "Not a directory (os error 20)"
  | isDirectory => "Is a directory (os error 21)"
  | nameTooLong => "File name too long (os error 36)"
  | nulInPath => "file name contained an unexpected NUL byte"
  | notUtf8 => "stream did not contain valid UTF-8"
  | stated reason => reason

/-- How readers of documents and writers of pictures word what is wrong. -/
class Wording where
  json : List Char → String
  toml : List Char → String
  unknownFormat : Option String → String

/-- Words that say no more than that something is wrong. -/
instance : Wording where
  json _ := "not understood"
  toml _ := "not understood"
  unknownFormat _ := "no format known"

def ImageError.message [Wording] : ImageError → String
  | unknownFormat extension => Wording.unknownFormat extension
  | file cause => cause.message

namespace MeterError

/-- The kind of an error. -/
def heading : MeterError → String
  | config _ => "Configuration error"
  | engine _ => "Could not initialize recognition engine"
  | recognition _ => "Recognition error"
  | image _ => "Image error"
  | io _ => "IO error"
  | json _ => "JSON error"
  | toml _ => "TOML error"

/-- Stops the caller instead of spoiling a cycle. -/
def isFatal : MeterError → Bool
  | config _ | engine _ => true
  | _ => false

variable [Wording]

/-- What is wrong. -/
def detail : MeterError → String
  | config cause => cause.message
  | engine cause => cause.message
  | recognition cause => cause.message
  | image cause => cause.message
  | io cause => cause.message
  | json document => Wording.json document
  | toml document => Wording.toml document

def message (e : MeterError) : String := e.heading ++ ": " ++ e.detail

/-- The message, and once more what is wrong where another library says so. -/
def chain (e : MeterError) : List String :=
  match e with
  | config _ | engine _ | recognition _ => [e.message]
  | image _ | io _ | json _ | toml _ => [e.message, e.detail]

end MeterError
end MeterSight
