/-!
# Kinds of recognizers
-/
namespace MeterSight

/-- Which way of reading a recognizer uses: an engine for characters, or a dial with a needle. The
latter is accepted in configurations and reads nothing so far. -/
inductive RecognizerKind where
  | tesseract
  | needle
  deriving DecidableEq, Repr

/-- The name in configurations and messages. -/
def RecognizerKind.name : RecognizerKind → String
  | tesseract => "tesseract"
  | needle => "needle"

/-- The kind with a name. -/
def RecognizerKind.ofName? (name : String) : Option RecognizerKind :=
  [tesseract, needle].find? fun k => k.name = name

theorem RecognizerKind.ofName?_name (k : RecognizerKind) : ofName? k.name = some k := by
  cases k <;> rfl

end MeterSight
