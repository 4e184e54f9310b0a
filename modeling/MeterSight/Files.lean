import MeterSight.Decimal.Numeral
import MeterSight.Error
import MeterSight.Image.Library
import MeterSight.Text.Line
import MeterSight.Text.Utf8

/-!
# Files

A tree of directories and files. Paths are walked step by step, so that `..` and `.` need the
directories they pass through. A picture is read and written in the format that the name of its
file promises.
-/
namespace MeterSight

/-- What a path leads to. -/
inductive FileEntry where
  | directory
  | file (content : ByteArray)

/-- A file tree below the root, and the directory in which relative paths begin. A place is the
names from the root to it. The directories on the way to an entry are there without being listed. -/
structure Files where
  workingDirectory : List String
  entries : List (List String × FileEntry)

namespace Files

/-- The longest name of a file, in bytes. -/
def longestName : Nat := 255

/-- The longest path, in bytes. -/
def longestPath : Nat := 4095

/-- What lies at a place. -/
def entryAt? (files : Files) (place : List String) : Option FileEntry :=
  match files.entries.find? fun e => e.1 = place with
  | some (_, entry) => some entry
  | none =>
    if place.isPrefixOf files.workingDirectory ∨
        files.entries.any (fun e => place.isPrefixOf e.1) then some .directory
    else none

/-- Is a directory. -/
def isDirectory (files : Files) (place : List String) : Bool :=
  match files.entryAt? place with
  | some .directory => true
  | _ => false

/-- The parts of a path between slashes. -/
def steps (path : String) : List String := (Text.splitAt '/' path.toList).map String.ofList

/-- Goes one step on from a directory. -/
def walk (files : Files) (place : List String) (step : String) : Option (List String) :=
  if files.isDirectory place then
    if step = "" ∨ step = "." then some place
    else if step = ".." then some place.dropLast
    else if longestName < step.utf8ByteSize ∨ step.toList.any (·.toNat == 0) then none
    else some (place ++ [step])
  else none

/-- Where a path begins. -/
def start (files : Files) (path : String) : List String :=
  if path.startsWith "/" then [] else files.workingDirectory

/-- The place that a path leads to, whether or not anything lies there. -/
def place? (files : Files) (path : String) : Option (List String) :=
  if path = "" ∨ longestPath < path.utf8ByteSize then none
  else (steps path).foldlM files.walk (files.start path)

/-- What a path leads to. -/
def find? (files : Files) (path : String) : Option FileEntry :=
  (files.place? path).bind files.entryAt?

/-- Why the steps of a path lead to nothing. -/
def fault (files : Files) (place : List String) : List String → FileError
  | [] => .missing
  | step :: more =>
    match files.walk place step, files.entryAt? place with
    | some next, _ => fault files next more
    | none, some .directory => .nameTooLong
    | none, some (.file _) => .notDirectory
    | none, none => .missing

/-- Opens a file or a directory. -/
def opened (files : Files) (path : String) : Except FileError FileEntry :=
  match files.find? path with
  | some entry => .ok entry
  | none =>
    if path.toList.any (·.toNat == 0) then .error .nulInPath
    else if longestPath < path.utf8ByteSize then .error .nameTooLong
    else .error (files.fault (files.start path) (steps path))

/-- The content of a file. -/
def content? (files : Files) (path : String) : Option ByteArray :=
  match files.find? path with
  | some (.file content) => some content
  | _ => none

/-- The text in a file. -/
def text (files : Files) (path : String) : Except FileError (List Char) :=
  match files.opened path with
  | .error cause => .error cause
  | .ok .directory => .error .isDirectory
  | .ok (.file content) =>
    match Text.decode? content.data.toList with
    | some text => .ok text
    | none => .error .notUtf8

/-- The last name of a path; `..` is none. -/
def fileName? (path : String) : Option (List Char) :=
  let names := (Text.splitAt '/' path.toList).filter fun n => n ≠ [] ∧ n ≠ ['.']
  names.getLast?.filter (· ≠ ['.', '.'])

/-- What follows the last point of the last name in a path. A point in front does not count. -/
def extension? (path : String) : Option (List Char) :=
  (fileName? path).bind fun name =>
    let pieces := Text.splitAt '.' name
    if 2 < pieces.length ∨ (pieces.length = 2 ∧ pieces.head? ≠ some []) then pieces.getLast?
    else none

/-- The extension in small letters. -/
def smallExtension? (path : String) : Option (List Char) :=
  (extension? path).map (·.map Decimal.lower)

/-- The picture in a file of the format that its extension promises. -/
def picture? [ImageLibrary] (files : Files) (path : String) : Option RgbaImage := do
  ImageLibrary.decode? (← smallExtension? path) (← files.content? path)

/-- Puts an entry at a place. -/
def put (files : Files) (place : List String) (entry : FileEntry) : Files :=
  { files with entries := (place, entry) :: files.entries.filter fun e => e.1 ≠ place }

/-- Writes a picture in the format that the extension of the path tells. A path that ends in a
slash or a point is no place for a file. -/
def writePicture? (files : Files) (path : String) (img : RgbaImage) : Option Files := do
  let format ← (smallExtension? path).bind PictureFormat.ofExtension?
  let place ← files.place? path
  if (steps path).getLast? = place.getLast? ∧ ¬ files.isDirectory place then
    some (files.put place (.file (format.encode img)))
  else none

/-- Why a picture cannot be written. -/
def writingFault (files : Files) (path : String) : ImageError :=
  match (smallExtension? path).bind PictureFormat.ofExtension?, files.opened path with
  | none, _ => .unknownFormat ((extension? path).map String.ofList)
  | some _, .error cause => .file cause
  | some _, .ok _ => .file .isDirectory

end Files
end MeterSight
