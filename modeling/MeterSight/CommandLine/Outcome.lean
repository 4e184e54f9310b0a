import MeterSight.CommandLine.Arguments
import MeterSight.Meter
import MeterSight.Ocr.Program
import MeterSight.Settings.Document
import MeterSight.Text.Quoted

/-!
# Outcomes

What one run of the command line does: it loads the settings, builds the meter, tries to open the
photo, runs one cycle and prints the readings. Where a step fails nothing is printed but why, except
that it does not matter whether the photo can be opened.
-/
namespace MeterSight

/-- Loads settings from a file. Its extension tells the format. -/
def Settings.load (files : Files) (path : String) : Except MeterError Settings :=
  match files.text path with
  | .error cause => .error (.io cause)
  | .ok text => Settings.read (if Files.smallExtension? path = some "toml".toList then .toml else .json) text

namespace CommandLine

/-- The step that failed, and why. -/
inductive Failure where
  /-- It is not known where settings are kept. -/
  | noSettingsDirectory
  | loading (path : String) (cause : MeterError)
  | building (cause : ConfigError)
  | reading (cause : MeterError)

namespace Failure

/-- What failed, then why, if there is more to say. -/
def chain [Wording] : Failure → List String
  | noSettingsDirectory => ["Could not determine config directory"]
  | loading path cause => ("Failed to load configuration " ++ Text.visiblyQuoted path) :: cause.chain
  | building cause => "Invalid meter configuration" :: (MeterError.config cause).chain
  | reading cause => "Read cycle failed" :: cause.chain

end Failure

/-- What a run finds around it. -/
structure Environment where
  /-- Where each program keeps its settings, if known. -/
  settingsDirectory : Option String
  files : Files
  time : Timestamp

/-- What is left of a run. -/
structure Outcome where
  exitCode : Nat
  /-- The lines that are printed. -/
  output : List String
  /-- What did not go as it should, but does not matter. -/
  warnings : List String
  failure : Option Failure
  files : Files

namespace Outcome

/-- Nothing is printed. -/
def silent (exitCode : Nat) (files : Files) : Outcome := ⟨exitCode, [], [], none, files⟩

/-- Nothing but warnings and the failure is printed. -/
def failed (warnings : List String) (failure : Failure) (files : Files) : Outcome :=
  ⟨1, [], warnings, some failure, files⟩

end Outcome

/-- The settings file to load where none is named. -/
def defaultPath (directory : String) : String := directory ++ "/meter-ocr/meter.json"

/-- The settings file to load. -/
def Arguments.settingsPath (given : Arguments) (env : Environment) : Except Failure String :=
  match given.config, env.settingsDirectory with
  | some path, _ => .ok path
  | Option.none, some directory => .ok (defaultPath directory)
  | Option.none, Option.none => .error .noSettingsDirectory

/-- Loads the settings and builds the meter. -/
def Arguments.meter (given : Arguments) (env : Environment) : Except Failure Meter := do
  let path ← given.settingsPath env
  let settings ← (Settings.load env.files path).mapError (Failure.loading path)
  settings.meter.mapError Failure.building

/-- What is warned of when the photo of a meter cannot be opened. -/
def openWarnings [Wording] (meter : Meter) (files : Files) : List String :=
  match meter.tryOpen files with
  | .ok () => []
  | .error cause => [cause.message]

/-- What is warned of when there are no readings. -/
def readingWarnings (readings : List (Reading Float)) : List String :=
  if readings = [] then ["No readings this cycle"] else []

/-- What is left when a cycle has come to an end. -/
def Arguments.conclude (given : Arguments) (warnings : List String)
    (readings : Except MeterError (List (Reading Float))) (files : Files) : Outcome :=
  match readings with
  | .error e => .failed warnings (.reading e) files
  | .ok readings =>
    ⟨0, readings.map (·.line given.json), warnings ++ readingWarnings readings, Option.none,
      files⟩

/-- Does what understood arguments ask for. Nothing is left if that never comes to an end. -/
def Arguments.run {σ : Type} [ImageLibrary] [Wording] (system : ProgramSystem σ)
    (env : Environment) (given : Arguments) : StateM σ (Option Outcome) := fun s =>
  match given.meter env with
  | .error failure => (some (.failed [] failure env.files), s)
  | .ok meter =>
    let warnings := openWarnings meter env.files
    let (cycle, _, t) : Meter.Cycle Float × Option ProgramEngine × σ :=
      meter.read system.backend env.files (given.maxReads.getD defaultMaxReads) env.time
        (Option.none, s)
    (cycle.files.map (given.conclude warnings cycle.readings), t)

/-- Does what the arguments of a command line ask for. -/
def run {σ : Type} [ImageLibrary] [Wording] (system : ProgramSystem σ) (env : Environment)
    (arguments : List String) : StateM σ (Option Outcome) :=
  match Arguments.parse arguments with
  | .error .help => return some (.silent 0 env.files)
  | .error .wrongUsage => return some (.silent 2 env.files)
  | .ok given => given.run system env

end CommandLine
end MeterSight
