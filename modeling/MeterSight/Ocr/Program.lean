import MeterSight.Image.Color
import MeterSight.Ocr.Table
import MeterSight.Text.Utf8

/-!
# Engine programs

A backend that runs a program: once to ask for its version when an engine starts, and once for
every search, on a picture of the rectangle to search. The picture is put into a scratch directory
of the engine. Whatever surrounds the program may get in the way of each of these steps.
-/
namespace MeterSight

/-- A run of a program. -/
structure Launch where
  executable : String
  arguments : List String
  /-- The picture that lies in the file named by the first argument. -/
  picture : Option GrayImage

/-- How a run ends. -/
inductive ProgramReply where
  /-- The program cannot be run, for a reason of the system. -/
  | refused (reason : String)
  | finished (success : Bool) (output complaint : List UInt8)

/-- A system on which programs can be run. -/
structure ProgramSystem (σ : Type) where
  /-- Runs a program to its end. -/
  run : Launch → StateM σ ProgramReply
  /-- Makes a scratch directory, or tells why not. -/
  makeScratch : StateM σ (Except String Unit)
  /-- Puts a picture into the scratch directory, under the name `pictureName`. -/
  savePicture : GrayImage → StateM σ (Except ImageError Unit)
  /-- Takes the scratch directory away with all that is in it. -/
  removeScratch : StateM σ Unit

/-- The same system, writing down the runs and how they end. -/
def ProgramSystem.traced {σ : Type} (system : ProgramSystem σ) :
    ProgramSystem (σ × List (Launch × ProgramReply)) where
  run l := fun (s, launches) =>
    let (reply, t) := system.run l s
    (reply, t, launches ++ [(l, reply)])
  makeScratch := fun (s, launches) =>
    let (made, t) := system.makeScratch s
    (made, t, launches)
  savePicture picture := fun (s, launches) =>
    let (saved, t) := system.savePicture picture s
    (saved, t, launches)
  removeScratch := fun (s, launches) => ((), (system.removeScratch s).2, launches)

/-- The name of the picture file. -/
def pictureName : String := "region.png"

/-- How a segmentation is called by the program. -/
def Segmentation.mode : Segmentation → String
  | .singleChar => "10"
  | .singleBlock => "6"

/-- The question for the version. -/
def EngineSettings.versionLaunch (s : EngineSettings) : Launch :=
  ⟨s.executable, ["--version"], none⟩

/-- The search of a picture. -/
def EngineSettings.searchLaunch (s : EngineSettings) (picture : GrayImage) : Launch where
  executable := s.executable
  arguments :=
    [pictureName, "stdout", "-l", s.language, "--psm", s.segmentation.mode] ++
      (s.dataDirectory.elim [] fun d => ["--tessdata-dir", d]) ++
      ["-c", "tessedit_char_whitelist=" ++ s.whitelist, "-c", "load_system_dawg=F",
        "-c", "load_freq_dawg=F", "tsv"]
  picture := picture

/-- No text that is handed to a system may hold the character zero. -/
def Launch.hasNul (l : Launch) : Bool :=
  (l.executable :: l.arguments).any fun text => text.toList.any (·.toNat == 0)

/-- Runs a program if its texts can be handed over. -/
def ProgramSystem.launch {σ : Type} (system : ProgramSystem σ) (l : Launch) :
    StateM σ ProgramReply :=
  if l.hasNul then pure (.refused "nul byte found in provided data") else system.run l

/-- The text of a complaint, without blanks around it. -/
def complaintText (bytes : List UInt8) : String :=
  String.ofList (Text.trim (Text.decodeLossy bytes))

/-- What an engine holds: its settings, and the latest image with the rectangle set after it. -/
structure ProgramEngine where
  settings : EngineSettings
  image : Option GrayImage
  rectangle : Option Rect

namespace ProgramEngine
variable {σ : Type}

/-- Asks the program for its version, and takes a good answer for a sign that it works. Then the
engine gets a scratch directory. -/
def create (system : ProgramSystem σ) (settings : EngineSettings) :
    StateM σ (Except MeterError ProgramEngine) := do
  match ← system.launch settings.versionLaunch with
  | .refused reason => return .error (.engine (.notStarted settings.executable reason))
  | .finished false _ complaint =>
    return .error (.engine (.noVersion settings.executable (complaintText complaint)))
  | .finished true _ _ =>
    match ← system.makeScratch with
    | .error reason => return .error (.engine (.noScratch reason))
    | .ok () => return .ok ⟨settings, none, none⟩

def setImage (e : ProgramEngine) (img : GrayImage) : ProgramEngine :=
  { e with image := some img, rectangle := none }

def setRectangle (e : ProgramEngine) (r : Rect) : ProgramEngine := { e with rectangle := some r }

/-- The part of the image to search. -/
def searchArea (e : ProgramEngine) (img : GrayImage) : Rect :=
  (e.rectangle.getD ⟨0, 0, img.width, img.height⟩).clip img.width img.height

/-- Runs the program on a picture whose corner lies at `left` and `top`. -/
def searchPicture (system : ProgramSystem σ) (e : ProgramEngine) (picture : GrayImage)
    (left top : Nat) : StateM σ (Except MeterError (List Word)) := do
  match ← system.launch (e.settings.searchLaunch picture) with
  | .refused reason => return .error (.io (.stated reason))
  | .finished false _ complaint =>
    return .error (.recognition (.failedRun (complaintText complaint)))
  | .finished true output _ => return .ok (WordTable.words left top (Text.decodeLossy output))

/-- Searches the part of the image inside the rectangle, if there is any. A picture of it has to be
saved for the program. -/
def recognize (system : ProgramSystem σ) (e : ProgramEngine) :
    StateM σ (Except MeterError (List Word)) :=
  match e.image with
  | none => return .error (.recognition .noImage)
  | some img =>
    let area := e.searchArea img
    if area.IsEmpty then return .ok []
    else do
      let picture := img.crop area
      match ← system.savePicture picture with
      | .error cause => return .error (.image cause)
      | .ok () => e.searchPicture system picture area.left area.top

end ProgramEngine

/-- The backend that runs programs. Without a living engine there is no image. -/
def ProgramSystem.backend {σ : Type} (system : ProgramSystem σ) :
    Backend (Option ProgramEngine × σ) where
  create settings := fun (_, s) =>
    match ProgramEngine.create system settings s with
    | (.ok e, t) => (.ok (), some e, t)
    | (.error cause, t) => (.error cause, none, t)
  setImage img := fun (e, s) => (.ok (), e.map (·.setImage img), s)
  setRectangle r := fun (e, s) => ((), e.map (·.setRectangle r), s)
  recognize := fun (e, s) =>
    match e with
    | none => (.error (.recognition .noImage), none, s)
    | some engine =>
      let (words, t) := engine.recognize system s
      (words, e, t)
  release := fun (e, s) =>
    match e with
    | none => ((), none, s)
    | some _ => ((), none, (system.removeScratch s).2)

end MeterSight
