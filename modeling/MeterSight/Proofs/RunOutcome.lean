import MeterSight.CommandLine.Outcome
import MeterSight.Proofs.Emission
import MeterSight.Proofs.EngineHistory
import MeterSight.Proofs.FrameDrawing
import MeterSight.Proofs.JsonText
import MeterSight.Proofs.Refusal

/-!
# Outcomes of runs

A run of the command line ends well if and only if the settings load, describe a meter, and the
cycle of this meter gives readings. Then just these are printed. Otherwise nothing is printed, and
what is reported is the purpose of the first step that fails, and after it the cause. That a photo
cannot be opened is no such step: it is only warned of. No program is started where there is nothing
to read or nothing to read it with.
-/
namespace MeterSight

/-! ### Lines -/

/-- What a reader of JSON is to see of a value. Doubles may be too large, and of others the digits
may miss the value by a little. -/
inductive Reading.ShowsValue : Float → Document → Prop
  | float {x : Float} (back : Json.FloatReadsBack x) : ShowsValue x (.float x)
  | null {x : Float} (unwritable : x.isFinite = false) : ShowsValue x .null

/-- A reading is printed as time, identifier and value between tabs, or as a JSON object of these,
and a reader of JSON sees them. -/
structure Reading.PrintedAs (json : Bool) (r : Reading Float) (line : String) : Prop where
  text : json = false →
    line = r.time.offsetText ++ "\t" ++ r.identifier ++ "\t" ++ Decimal.plainText r.value
  object : json = true →
    line = "\x7b\"identifier\":" ++ Text.jsonQuoted r.identifier ++ ",\"value\":" ++
      Json.numberText r.value ++ ",\"time\":" ++ Text.jsonQuoted r.time.zuluText ++ "\x7d"
  seen : json = true → ∀ value, Reading.ShowsValue r.value value →
    Json.read? line.toList = some (.table [("identifier", .string r.identifier),
      ("value", value), ("time", .string r.time.zuluText)])

theorem Reading.printedAs_line (json : Bool) (r : Reading Float) :
    r.PrintedAs json (r.line json) where
  text plain := by simp [line, plain, textLine]
  object asked := by
    have names : Text.jsonQuoted "identifier" = "\"identifier\"" ∧
        Text.jsonQuoted "value" = "\"value\"" ∧ Text.jsonQuoted "time" = "\"time\"" := by decide
    obtain ⟨identifier, value, time⟩ := names
    apply String.toList_injective
    simp [line, asked, jsonLine, Json.write, Json.writeFields, identifier, value, time]
  seen asked value shown := by
    have fields (value : Document) (good : Json.IsJson value) : Json.IsJson (.table
        [("identifier", .string r.identifier), ("value", value),
          ("time", .string r.time.zuluText)]) := by
      refine .table fun e mem => ?_
      simp only [List.mem_cons, List.not_mem_nil, or_false] at mem
      rcases mem with rfl | rfl | rfl
      exacts [.string _, good, .string _]
    have written : r.line json = Json.write (.table
        [("identifier", .string r.identifier), ("value", value),
          ("time", .string r.time.zuluText)]) := by
      cases shown with
      | float back => simp [line, asked, jsonLine]
      | null unwritable =>
        simp [line, asked, jsonLine, Json.write, Json.writeFields, Json.numberText, unwritable]
    rw [written]
    cases shown with
    | float back => exact Json.read?_write (fields _ (.float back))
    | null unwritable => exact Json.read?_write (fields _ .null)

/-! ### Cycles -/

theorem Readings.length_emit_le {α : Type} [Amount α] (r : Readings α) (limit : Nat)
    (time : Timestamp) : (r.emit limit time).length ≤ limit := by
  rw [emit, collect_eq_take]
  exact List.length_take_le limit _

namespace Meter
variable {σ α : Type} [Amount α]

/-- A photo that cannot be opened cannot be read. -/
theorem picture?_eq_none_of_tryOpen [ImageLibrary] {m : Meter} {files : Files} {cause : MeterError}
    (closed : m.tryOpen files = .error cause) : files.picture? m.file = none := by
  have nowhere : files.find? m.file = none := by
    cases found : files.find? m.file with
    | none => rfl
    | some entry => simp [tryOpen, Files.opened, found] at closed
  have empty : files.content? m.file = none := by simp [Files.content?, nowhere]
  simp [Files.picture?, empty]

/-- There are never more readings than asked for. -/
theorem length_readings_le [ImageLibrary] {b : Backend σ} {m : Meter} {files : Files}
    {limit : Nat} {time : Timestamp} {s : σ} {readings : List (Reading α)}
    (given : (m.read b files limit time s).1.readings = .ok readings) :
    readings.length ≤ limit := by
  by_cases idle : limit = 0 ∨ files.picture? m.file = none
  · rw [m.read_eq_of_nothing_to_read b files time idle s] at given
    obtain rfl := Except.ok.inj given
    exact Nat.zero_le limit
  · obtain ⟨room, present⟩ := not_or.1 idle
    obtain ⟨photo, readable⟩ := Option.ne_none_iff_exists'.1 present
    obtain ⟨sessions, t, -, ran, -⟩ := m.read_traced (α := α) b files time room readable s []
    rw [ran] at given
    cases halt : sessions.findSome? Session.halt? with
    | some cause => simp [cycleOf, halt] at given
    | none =>
      simp only [cycleOf, halt, Except.ok.injEq] at given
      exact given ▸ Readings.length_emit_le _ limit time

/-- What does not matter for other readings does not end a cycle. -/
theorem isFatal_of_readings_eq_error [ImageLibrary] {b : Backend σ} {m : Meter} {files : Files}
    {limit : Nat} {time : Timestamp} {s : σ} {cause : MeterError}
    (failed : (m.read (α := α) b files limit time s).1.readings = .error cause) :
    cause.isFatal = true := by
  by_cases idle : limit = 0 ∨ files.picture? m.file = none
  · rw [m.read_eq_of_nothing_to_read b files time idle s] at failed
    cases failed
  · obtain ⟨room, present⟩ := not_or.1 idle
    obtain ⟨photo, readable⟩ := Option.ne_none_iff_exists'.1 present
    obtain ⟨sessions, t, tour, ran, -⟩ := m.read_traced (α := α) b files time room readable s []
    rw [ran, readings_cycleOf_eq_error_iff tour] at failed
    obtain ⟨session, -, halt⟩ := failed
    exact (Session.halt?_eq_some_iff.1 halt).2

/-- Needles need no engine. -/
theorem sightAll_of_no_text {b : Backend σ} {photo : RgbaImage} {offset : Offset}
    {recognizers : List Recognizer} (none : recognizers.filterMap Recognizer.text? = [])
    (held : Option (List Frame)) (s : σ) :
    sightAll b photo offset recognizers held s = (.ok (.nothing held), s) := by
  induction recognizers with
  | nil => rfl
  | cons r more ih =>
    cases r with
    | text r => simp [Recognizer.text?] at none
    | needle regions =>
      rw [sightAll_needle]
      exact ih (by simpa [Recognizer.text?] using none)

/-- Nothing is asked of a backend where there is nothing to read or nothing to read it with. -/
theorem state_read_eq [ImageLibrary] {b : Backend σ} {m : Meter} {files : Files} {limit : Nat}
    (time : Timestamp)
    (idle : limit = 0 ∨ files.picture? m.file = none ∨ m.textRecognizers = []) (s : σ) :
    (m.read (α := α) b files limit time s).2 = s := by
  by_cases still : limit = 0 ∨ files.picture? m.file = none
  · rw [m.read_eq_of_nothing_to_read b files time still s]
  · obtain ⟨room, present⟩ := not_or.1 still
    obtain ⟨photo, readable⟩ := Option.ne_none_iff_exists'.1 present
    have none : m.textRecognizers = [] := by tauto
    have seen (held : Option (List Frame)) :
        sightAll b (m.upright photo) (m.offset photo) m.recognizers held s =
          (Session.conclude (m.upright photo) (m.offset photo) held [], s) := by
      rw [sightAll_of_no_text none]
      cases held <;> simp [Session.conclude, Sighting.nothing]
    rw [read_of_sightAll room readable seen]

theorem exists_tesseract_of_ne_nil {m : Meter} (some : m.textRecognizers ≠ []) :
    ∃ r ∈ m.recognizers, r.kind = .tesseract := by
  obtain ⟨t, mem⟩ := List.exists_mem_of_ne_nil _ some
  obtain ⟨r, listed, text⟩ := List.mem_filterMap.1 mem
  cases r with
  | text r => exact ⟨_, listed, rfl⟩
  | needle regions => cases text

end Meter

namespace CommandLine
variable {σ : Type}

namespace Arguments

/-- The settings are found and load, and they describe a meter. -/
def Builds (given : Arguments) (env : Environment) (m : Meter) : Prop :=
  ∃ path settings, given.settingsPath env = .ok path ∧
    Settings.load env.files path = .ok settings ∧ settings.meter = .ok m

/-- How many readings may be printed. -/
def limit (given : Arguments) : Nat := given.maxReads.getD defaultMaxReads

section cycle
variable [ImageLibrary] (given : Arguments) (system : ProgramSystem σ) (env : Environment) (s : σ)

/-- What the cycle of a meter gives. -/
def cycleReadings (m : Meter) : Except MeterError (List (Reading Float)) :=
  (m.read system.backend env.files given.limit env.time (Option.none, s)).1.readings

/-- The cycle of a meter leaves no montage, or one that can be drawn. -/
def CanDraw (m : Meter) : Prop :=
  m.debug = false ∨ ImageLibrary.AlwaysDraws ∨
    ∀ e ∈ (m.read (α := Float) system.backend.traced env.files given.limit env.time
      ((Option.none, s), [])).2.2, e.Near

/-- All steps of a run succeed, and the last one gives readings. -/
def Reads (readings : List (Reading Float)) : Prop :=
  ∃ m, given.Builds env m ∧ given.cycleReadings system env s m = .ok readings

/-- What is reported of the first step that fails: what it was for, and why it failed. Without a
settings file there is no such step. -/
inductive Breaks [Wording] : List String → Prop
  | nowhere (unnamed : given.config = Option.none) (unknown : env.settingsDirectory = Option.none) :
      Breaks ["Could not determine config directory"]
  | loading {path : String} {cause : MeterError} (named : given.settingsPath env = .ok path)
      (failed : Settings.load env.files path = .error cause) :
      Breaks (("Failed to load configuration " ++ Text.visiblyQuoted path) :: cause.chain)
  | building {path : String} {settings : Settings} {cause : ConfigError}
      (named : given.settingsPath env = .ok path)
      (loaded : Settings.load env.files path = .ok settings)
      (failed : settings.meter = .error cause) :
      Breaks ["Invalid meter configuration", "Configuration error: " ++ cause.message]
  | reading {m : Meter} {cause : MeterError} (built : given.Builds env m)
      (failed : given.cycleReadings system env s m = .error cause) (fatal : cause.isFatal = true) :
      Breaks ("Read cycle failed" :: cause.chain)

end cycle

variable {given : Arguments} {system : ProgramSystem σ} {env : Environment} {s : σ}

theorem of_settingsPath_eq_error {failure : Failure}
    (lost : given.settingsPath env = .error failure) :
    failure = .noSettingsDirectory ∧ given.config = Option.none ∧
      env.settingsDirectory = Option.none := by
  unfold settingsPath at lost
  split at lost
  · cases lost
  · cases lost
  · next unnamed unknown => exact ⟨(Except.error.inj lost).symm, unnamed, unknown⟩

theorem meter_of_builds {m : Meter} (built : given.Builds env m) : given.meter env = .ok m := by
  obtain ⟨path, settings, named, loaded, accepted⟩ := built
  simp only [meter, named, bind, Except.bind, loaded, accepted, Except.mapError]

section run
variable [ImageLibrary] [Wording]

/-- Either there is a meter, or one of the steps towards it fails. -/
theorem meter_cases (given : Arguments) (system : ProgramSystem σ) (env : Environment) (s : σ) :
    (∃ m, given.Builds env m) ∨
      ∃ failure, given.meter env = .error failure ∧ given.Breaks system env s failure.chain := by
  cases named : given.settingsPath env with
  | error failure =>
    obtain ⟨rfl, unnamed, unknown⟩ := of_settingsPath_eq_error named
    refine .inr ⟨.noSettingsDirectory, ?_, .nowhere unnamed unknown⟩
    simp only [meter, named, bind, Except.bind]
  | ok path =>
    cases loaded : Settings.load env.files path with
    | error cause =>
      refine .inr ⟨.loading path cause, ?_, .loading named loaded⟩
      simp only [meter, named, bind, Except.bind, loaded, Except.mapError]
    | ok settings =>
      cases accepted : settings.meter with
      | error cause =>
        refine .inr ⟨.building cause, ?_, .building named loaded accepted⟩
        simp only [meter, named, bind, Except.bind, loaded, accepted, Except.mapError]
      | ok m => exact .inl ⟨m, path, settings, named, loaded, accepted⟩

theorem run_of_meter_eq_error {failure : Failure} (failed : given.meter env = .error failure) :
    given.run system env s = (some (.failed [] failure env.files), s) := by
  simp only [run, failed]

/-- With a meter, a run is its cycle. -/
theorem run_of_builds {m : Meter} (built : given.Builds env m) :
    given.run system env s =
      ((m.read (α := Float) system.backend env.files given.limit env.time
          (Option.none, s)).1.files.map
        (given.conclude (openWarnings m env.files) (given.cycleReadings system env s m)),
      (m.read (α := Float) system.backend env.files given.limit env.time
        (Option.none, s)).2.2) := by
  simp only [run, meter_of_builds built, cycleReadings, limit]
  rfl

/-- Nothing is left of a run only if its montage never comes to an end. -/
theorem exists_outcome (draws : ∀ m, given.Builds env m → given.CanDraw system env s m) :
    ∃ outcome, (given.run system env s).1 = some outcome := by
  rcases given.meter_cases system env s with ⟨m, built⟩ | ⟨failure, failed, -⟩
  · obtain ⟨written, kept⟩ := m.exists_files_read (α := Float) system.backend env.files
      given.limit env.time (Option.none, s) (draws m built)
    rw [run_of_builds built, kept]
    exact ⟨_, rfl⟩
  · rw [run_of_meter_eq_error failed]
    exact ⟨_, rfl⟩

variable {outcome : Outcome}

/-- What is left of a run with a meter is what its cycle gives. -/
theorem exists_conclude_of_builds {m : Meter} (built : given.Builds env m)
    (left : (given.run system env s).1 = some outcome) :
    ∃ files, outcome =
      given.conclude (openWarnings m env.files) (given.cycleReadings system env s m) files := by
  rw [run_of_builds built] at left
  obtain ⟨files, -, concluded⟩ := Option.map_eq_some_iff.1 left
  exact ⟨files, concluded.symm⟩

theorem exists_eq_of_reads {readings : List (Reading Float)}
    (reads : given.Reads system env s readings)
    (left : (given.run system env s).1 = some outcome) :
    ∃ warnings files, outcome =
      ⟨0, readings.map (·.line given.json), warnings, Option.none, files⟩ := by
  obtain ⟨m, built, read⟩ := reads
  obtain ⟨files, eq⟩ := exists_conclude_of_builds built left
  rw [read] at eq
  exact ⟨_, files, eq⟩

/-- A run either reads or breaks at some step. -/
theorem reads_or_breaks (left : (given.run system env s).1 = some outcome) :
    (∃ readings, given.Reads system env s readings) ∨
    ∃ warnings failure files, given.Breaks system env s failure.chain ∧
      outcome = .failed warnings failure files := by
  rcases given.meter_cases system env s with ⟨m, built⟩ | ⟨failure, failed, breaks⟩
  · cases read : given.cycleReadings system env s m with
    | ok readings => exact .inl ⟨readings, m, built, read⟩
    | error cause =>
      obtain ⟨files, eq⟩ := exists_conclude_of_builds built left
      rw [read] at eq
      have fatal := Meter.isFatal_of_readings_eq_error read
      exact .inr ⟨_, .reading cause, files, .reading built read fatal, eq⟩
  · rw [run_of_meter_eq_error failed] at left
    exact .inr ⟨[], failure, env.files, breaks, (Option.some.inj left).symm⟩

/-- The exit code tells whether a run read. -/
theorem exitCode_eq_zero_iff (left : (given.run system env s).1 = some outcome) :
    outcome.exitCode = 0 ↔ ∃ readings, given.Reads system env s readings := by
  constructor
  · intro good
    rcases reads_or_breaks left with reads | ⟨warnings, failure, files, -, rfl⟩
    · exact reads
    · simp [Outcome.failed] at good
  · rintro ⟨readings, reads⟩
    obtain ⟨warnings, files, rfl⟩ := exists_eq_of_reads reads left
    rfl

/-- What was read is printed, and nothing is reported. -/
theorem output_of_reads {readings : List (Reading Float)}
    (reads : given.Reads system env s readings)
    (left : (given.run system env s).1 = some outcome) :
    List.Forall₂ (Reading.PrintedAs given.json) readings outcome.output ∧
      outcome.output.length ≤ given.limit ∧ outcome.failure.isNone = true := by
  obtain ⟨warnings, files, rfl⟩ := exists_eq_of_reads reads left
  obtain ⟨m, -, read⟩ := reads
  refine ⟨?_, ?_, rfl⟩
  · rw [List.forall₂_map_right_iff, List.forall₂_same]
    exact fun r _ => r.printedAs_line given.json
  · rw [List.length_map]
    exact Meter.length_readings_le read

/-- Else nothing is printed, and the first step that fails is reported. -/
theorem breaks_of_exitCode_ne_zero (bad : outcome.exitCode ≠ 0)
    (left : (given.run system env s).1 = some outcome) :
    outcome.exitCode = 1 ∧ outcome.output = [] ∧
      ∃ failure, outcome.failure = some failure ∧ given.Breaks system env s failure.chain := by
  rcases reads_or_breaks left with reads | ⟨warnings, failure, files, breaks, rfl⟩
  · exact absurd ((exitCode_eq_zero_iff left).2 reads) bad
  · exact ⟨rfl, rfl, failure, rfl, breaks⟩

/-- Without a photo nothing is read, and this is no failure. -/
theorem outcome_of_unreadable {m : Meter} (built : given.Builds env m)
    (unreadable : env.files.picture? m.file = Option.none)
    (left : (given.run system env s).1 = some outcome) :
    outcome.exitCode = 0 ∧ outcome.output = [] := by
  have read : given.cycleReadings system env s m = .ok [] := by
    rw [cycleReadings, m.read_eq_of_nothing_to_read system.backend env.files env.time
      (.inr unreadable)]
  obtain ⟨warnings, files, rfl⟩ := exists_eq_of_reads ⟨m, built, read⟩ left
  exact ⟨rfl, rfl⟩

/-- A photo that cannot be opened is warned of. -/
theorem message_mem_warnings {m : Meter} (built : given.Builds env m) {cause : MeterError}
    (closed : m.tryOpen env.files = .error cause)
    (left : (given.run system env s).1 = some outcome) : cause.message ∈ outcome.warnings := by
  obtain ⟨files, rfl⟩ := exists_conclude_of_builds built left
  unfold conclude
  cases given.cycleReadings system env s m <;> simp [Outcome.failed, openWarnings, closed]

/-- No program is started where none may be of use. -/
theorem state_run_eq {m : Meter} (built : given.Builds env m)
    (idle : given.limit = 0 ∨ env.files.picture? m.file = Option.none ∨ m.textRecognizers = []) :
    (given.run system env s).2 = s := by
  rw [run_of_builds built, m.state_read_eq env.time idle]

/-- If a program is started, then for readings that may be given, a photo and a recognizer. -/
theorem useful_of_state_run_ne (moved : (given.run system env s).2 ≠ s) :
    1 ≤ given.limit ∧ ∃ m, given.Builds env m ∧
      (∃ photo, env.files.picture? m.file = some photo) ∧
        ∃ r ∈ m.recognizers, r.kind = .tesseract := by
  rcases given.meter_cases system env s with ⟨m, built⟩ | ⟨failure, failed, -⟩
  · have busy : ¬ (given.limit = 0 ∨ env.files.picture? m.file = Option.none ∨
        m.textRecognizers = []) := fun idle => moved (state_run_eq built idle)
    obtain ⟨room, rest⟩ := not_or.1 busy
    obtain ⟨present, text⟩ := not_or.1 rest
    exact ⟨Nat.one_le_iff_ne_zero.2 room, m, built, Option.ne_none_iff_exists'.1 present,
      Meter.exists_tesseract_of_ne_nil text⟩
  · exact absurd (congrArg Prod.snd (run_of_meter_eq_error failed)) moved

end run

end Arguments

/-- Understood arguments lead to exit code 0 if and only if the settings load, describe a meter and
its cycle gives readings. Then these are printed, in their order and no more than asked for. In any
other case the exit code is 1, nothing is printed, and the report begins with the first step that
fails and its cause, or says that no settings file is named or known. A photo that cannot be opened
or read is no such case. A program is started only if there are readings to give, a photo to read
and a recognizer to read it with. The run itself ends, unless it is to leave a montage that cannot
be drawn. -/
theorem run_outcome [ImageLibrary] [Wording] (system : ProgramSystem σ) (env : Environment)
    {arguments : List String} {given : Arguments}
    (parsed : Arguments.parse arguments = .ok given) (s : σ) :
    let left := (run system env arguments s).1
    let launches := (run system.traced env arguments (s, [])).2.2
    ((∀ m, given.Builds env m → given.CanDraw system env s m) → ∃ outcome, left = some outcome) ∧
    (∀ outcome, left = some outcome →
      (outcome.exitCode = 0 ↔ ∃ readings, given.Reads system env s readings) ∧
      (∀ readings, given.Reads system env s readings →
        List.Forall₂ (Reading.PrintedAs given.json) readings outcome.output ∧
          outcome.output.length ≤ given.limit ∧ outcome.failure.isNone = true) ∧
      (outcome.exitCode ≠ 0 → outcome.exitCode = 1 ∧ outcome.output = [] ∧
        ∃ failure, outcome.failure = some failure ∧ given.Breaks system env s failure.chain) ∧
      ∀ m, given.Builds env m →
        (env.files.picture? m.file = none → outcome.exitCode = 0 ∧ outcome.output = []) ∧
        ∀ cause, m.tryOpen env.files = .error cause →
          outcome.exitCode = 0 ∧ outcome.output = [] ∧ cause.message ∈ outcome.warnings) ∧
    (launches ≠ [] → 1 ≤ given.limit ∧ ∃ m, given.Builds env m ∧
      (∃ photo, env.files.picture? m.file = some photo) ∧
        ∃ r ∈ m.recognizers, r.kind = .tesseract) := by
  have own {τ : Type} (system : ProgramSystem τ) (t : τ) :
      run system env arguments t = given.run system env t := by
    simp only [run, parsed]
  simp only [own]
  refine ⟨Arguments.exists_outcome, fun outcome left => ⟨?_, ?_, ?_, fun m built => ⟨?_, ?_⟩⟩, ?_⟩
  · exact Arguments.exitCode_eq_zero_iff left
  · intro readings reads
    exact Arguments.output_of_reads reads left
  · intro bad
    exact Arguments.breaks_of_exitCode_ne_zero bad left
  · intro unreadable
    exact Arguments.outcome_of_unreadable built unreadable left
  · intro cause closed
    have ⟨good, silent⟩ :=
      Arguments.outcome_of_unreadable built (m.picture?_eq_none_of_tryOpen closed) left
    exact ⟨good, silent, Arguments.message_mem_warnings built closed left⟩
  · intro some
    -- The launches are what the traced system adds to its state.
    exact Arguments.useful_of_state_run_ne fun still => some (congrArg Prod.snd still)

end CommandLine

namespace Sample
open CommandLine

/-- Settings for the photo that drifts, with two regions of the older form that share a name. -/
def settingsText : String :=
  "\x7b\"file\":\"m.bmp\",\"autofix\":\x7b\"range\":2,\"x\":2,\"y\":2\x7d,\"boundingboxes\":[" ++
    "\x7b\"identifier\":\"id1\",\"scaler\":1,\"box\":\x7b\"x1\":0,\"y1\":2,\"x2\":2,\"y2\":5\x7d\x7d," ++
    "\x7b\"identifier\":\"id1\",\"box\":\x7b\"x1\":2,\"y1\":2,\"x2\":4,\"y2\":5\x7d\x7d]\x7d"

/-- The settings lie beside the photo, and no other place for settings is known. -/
def environment : Environment where
  settingsDirectory := none
  files := files.put ["m.json"] (.file ⟨(settingsText.toList.map fun c => c.val.toUInt8).toArray⟩)
  time := ⟨0, 0⟩

/-- Both regions are searched for one value, of which there is a line in either form. Where the
settings are not, nothing is printed. -/
theorem run_outcome_blocks :
    let given : Arguments := ⟨some "m.json", some 1, false, false⟩
    let asked : Arguments := ⟨some "m.json", none, true, false⟩
    let astray : Arguments := ⟨some "m", none, false, false⟩
    let system := printing table
    Arguments.parse ["-m1", "-c", "m.json"] = .ok given ∧
      Arguments.parse ["--json", "-c", "m.json"] = .ok asked ∧
      Arguments.parse ["-c", "m"] = .ok astray ∧
      (∃ outcome readings, (run system environment ["-m1", "-c", "m.json"] ()).1 = some outcome ∧
        outcome.exitCode = 0 ∧ outcome.output = ["1970-01-01T00:00:00+00:00\tid1\t77"] ∧
        given.Reads system environment () readings ∧
        List.Forall₂ (Reading.PrintedAs false) readings outcome.output) ∧
      (∃ outcome readings, (run system environment ["--json", "-c", "m.json"] ()).1 =
          some outcome ∧
        outcome.output =
          ["\x7b\"identifier\":\"id1\",\"value\":77.0,\"time\":\"1970-01-01T00:00:00Z\"\x7d"] ∧
        asked.Reads system environment () readings ∧
        List.Forall₂ (Reading.PrintedAs true) readings outcome.output) ∧
      (∃ m, given.Builds environment m ∧ ∃ r ∈ m.recognizers, r.kind = .tesseract) ∧
      ∃ outcome failure, (run system environment ["-c", "m"] ()).1 = some outcome ∧
        outcome.exitCode = 1 ∧ outcome.output = [] ∧ outcome.failure = some failure ∧
        astray.Breaks system environment () failure.chain ∧
        failure.chain = ["Failed to load configuration \"m\"",
          "IO error: No such file or directory (os error 2)",
          "No such file or directory (os error 2)"] := by
  intro given asked astray system
  have parsed : Arguments.parse ["-m1", "-c", "m.json"] = .ok given := by decide
  have parsed' : Arguments.parse ["--json", "-c", "m.json"] = .ok asked := by decide
  have parsed'' : Arguments.parse ["-c", "m"] = .ok astray := by decide
  obtain ⟨-, told, started⟩ := run_outcome system environment parsed ()
  obtain ⟨-, told', -⟩ := run_outcome system environment parsed' ()
  obtain ⟨-, told'', -⟩ := run_outcome system environment parsed'' ()
  have launched : (run system.traced environment ["-m1", "-c", "m.json"] ((), [])).2.2 ≠ [] := by
    decide +kernel
  obtain ⟨-, m, built, -, text⟩ := started launched
  refine ⟨parsed, parsed', parsed'', ?_, ?_, ⟨m, built, text⟩, ?_⟩
  · have seen : (run system environment ["-m1", "-c", "m.json"] ()).1.map (fun o =>
        (o.exitCode, o.output)) = some (0, ["1970-01-01T00:00:00+00:00\tid1\t77"]) := by
      decide +kernel
    obtain ⟨outcome, left, eq⟩ := Option.map_eq_some_iff.1 seen
    obtain ⟨good, lines⟩ := Prod.mk.inj eq
    obtain ⟨ended, printed, -⟩ := told outcome left
    obtain ⟨readings, reads⟩ := ended.1 good
    exact ⟨outcome, readings, left, good, lines, reads, (printed readings reads).1⟩
  · have seen : (run system environment ["--json", "-c", "m.json"] ()).1.map (fun o =>
        (o.exitCode, o.output)) = some (0,
          ["\x7b\"identifier\":\"id1\",\"value\":77.0,\"time\":\"1970-01-01T00:00:00Z\"\x7d"]) := by
      decide +kernel
    obtain ⟨outcome, left, eq⟩ := Option.map_eq_some_iff.1 seen
    obtain ⟨good, lines⟩ := Prod.mk.inj eq
    obtain ⟨ended, printed, -⟩ := told' outcome left
    obtain ⟨readings, reads⟩ := ended.1 good
    exact ⟨outcome, readings, left, lines, reads, (printed readings reads).1⟩
  · have seen : (run system environment ["-c", "m"] ()).1.map (fun o =>
        (o.exitCode, o.failure.map Failure.chain)) = some (1, some
          ["Failed to load configuration \"m\"",
            "IO error: No such file or directory (os error 2)",
            "No such file or directory (os error 2)"]) := by
      decide +kernel
    obtain ⟨outcome, left, eq⟩ := Option.map_eq_some_iff.1 seen
    obtain ⟨bad, chain⟩ := Prod.mk.inj eq
    obtain ⟨-, -, broken, -⟩ := told'' outcome left
    obtain ⟨one, silent, failure, reported, breaks⟩ := broken (by omega)
    rw [reported] at chain
    exact ⟨outcome, failure, left, one, silent, reported, breaks, Option.some.inj chain⟩

end Sample
end MeterSight
