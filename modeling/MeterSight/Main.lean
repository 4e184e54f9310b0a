import MeterSight.CommandLine.Outcome
import Std.Time.DateTime.Timestamp

/-!
# The program

Looks up the few files that a run can touch, does the run on them, and then writes and prints what
is left of it. No other program is started from here: an engine program counts as one that cannot
be run.
-/
namespace MeterSight.CommandLine

/-- What is printed to who asks for help. -/
def helpText : String :=
  "Reads numeric values off a photo of a meter display.\n\n" ++
  "  -c, --config FILE      settings, as JSON or, in a file named .toml, as TOML\n" ++
  "  -m, --max-reads COUNT  print at most so many readings (16 if not given)\n" ++
  "      --json             print each reading as a JSON object\n" ++
  "  -v, --verbose          accepted without effect\n" ++
  "  -h, --help             print this text"

/-- What is printed about a failure. Several causes are numbered. -/
def Failure.text [Wording] (f : Failure) : String :=
  match f.chain with
  | [] => "Error"
  | first :: [] => "Error: " ++ first
  | first :: cause :: [] => "Error: " ++ first ++ "\n\nCaused by:\n    " ++ cause
  | first :: causes =>
    let numbered := causes.zipIdx.map fun (cause, i) => "    " ++ toString i ++ ": " ++ cause
    "Error: " ++ first ++ "\n\nCaused by:\n" ++ "\n".intercalate numbered

/-- The place of a path, with the steps back taken out. -/
def placeOf (workingDirectory : List String) (path : String) : List String :=
  (Files.steps path).foldl
    (fun place step =>
      if step = "" ∨ step = "." then place
      else if step = ".." then place.dropLast
      else place ++ [step])
    (if path.startsWith "/" then [] else workingDirectory)

/-- Takes up what a path leads to. -/
def lookUp (files : Files) (path : String) : IO Files := do
  let name := (← IO.currentDir) / path
  let place := placeOf files.workingDirectory path
  if ← name.isDir then return files.put place .directory
  let known := if ← (name.parent.elim (pure false) (·.isDir)) then
      files.put place.dropLast .directory
    else files
  try return known.put place (.file (← IO.FS.readBinFile name))
  catch _ => return known

/-- The directory for settings, if the surroundings tell one. -/
def settingsDirectory? : IO (Option String) := do
  match ← IO.getEnv "XDG_CONFIG_HOME" with
  | some directory => if directory.startsWith "/" then return some directory
  | none => pure ()
  match ← IO.getEnv "HOME" with
  | some home => return if home = "" then none else some (home ++ "/.config")
  | none => return none

/-- The present moment. -/
def now : IO Timestamp := do
  let passed := (← Std.Time.Timestamp.now).val
  let total : Int := passed.second.val * 1000000000 + passed.nano.val
  return ⟨total / 1000000000, (total % 1000000000).toNat⟩

/-- A system on which no program can be run, so that no picture is ever saved for one. -/
def noPrograms : ProgramSystem Unit where
  run _ := return .refused "cannot be run from here"
  makeScratch := return .error "cannot be made from here"
  savePicture _ := return .error (.file (.stated "cannot be saved from here"))
  removeScratch := return

/-- The photo that a run would read. -/
def Arguments.photo? (given : Arguments) (env : Environment) : Option String := do
  let path ← (given.settingsPath env).toOption
  let settings ← (Settings.load env.files path).toOption
  settings.photoFile.toOption

/-- Takes up the settings, then the photo and its montage. -/
def Arguments.lookUpAll (given : Arguments) (env : Environment) : IO Environment := do
  match given.settingsPath env with
  | .error _ => return env
  | .ok path =>
    let env := { env with files := ← lookUp env.files path }
    match given.photo? env with
    | Option.none => return env
    | some photo =>
      return { env with files := ← lookUp (← lookUp env.files photo) (Montage.path photo) }

/-- Writes the montage if a run has changed it. Failing to do so does not matter. -/
def writeMontage (photo : String) (before after : Files) : IO Unit := do
  match after.content? (Montage.path photo) with
  | some content =>
    let known := (before.content? (Montage.path photo)).any fun c => c.data == content.data
    unless known do
      try IO.FS.writeBinFile ((← IO.currentDir) / Montage.path photo) content
      catch _ => return
  | none => return

/-- Does what understood arguments ask for. -/
def Arguments.perform (given : Arguments) : IO UInt32 := do
  let workingDirectory := (Files.steps (← IO.currentDir).toString).filter (· ≠ "")
  let env ← given.lookUpAll ⟨← settingsDirectory?, ⟨workingDirectory, []⟩, ← now⟩
  match (given.run noPrograms env ()).1 with
  | Option.none =>
    IO.eprintln "Error: the montage never gets done"
    return 1
  | some outcome =>
    (given.photo? env).forM (writeMontage · env.files outcome.files)
    outcome.warnings.forM fun warning => IO.eprintln ("WARN " ++ warning)
    outcome.output.forM IO.println
    outcome.failure.forM fun failure => IO.eprintln failure.text
    return outcome.exitCode.toUInt32

end MeterSight.CommandLine

/-- Reads a meter photo once and prints the readings. -/
def main (arguments : List String) : IO UInt32 := do
  match MeterSight.CommandLine.Arguments.parse arguments with
  | .ok given => given.perform
  | .error .help =>
    IO.println MeterSight.CommandLine.helpText
    return 0
  | .error .wrongUsage =>
    IO.eprintln "error: the arguments are not understood\n\nFor more information, try '--help'."
    return 2
