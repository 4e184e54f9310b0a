import MeterSight.Proofs.Tour

/-!
# Refused engines

What a cycle makes of a recognizer that gets no engine. A fatal reason ends the cycle. With any
other reason the cycle goes on as if the recognizer had no regions, so that an identifier that it
shares with others is read off the regions of these alone.
-/
namespace MeterSight

/-- The reason why an engine could not be had. -/
def EngineEvent.refusal? : EngineEvent → Option MeterError
  | .create _ (.error cause) => some cause
  | _ => none

theorem EngineEvent.refusal?_eq_some_iff {e : EngineEvent} {cause : MeterError} :
    e.refusal? = some cause ↔ ∃ settings, e = .create settings (.error cause) := by
  unfold refusal?
  split <;> simp_all

namespace Session
variable {photo : RgbaImage} {offset : Offset} {s : Session} {cause : MeterError}

/-- There was an engine. -/
def hasEngine (s : Session) : Bool :=
  match s.course with
  | .refused _ => false
  | _ => true

theorem create_not_mem_events {settings : EngineSettings} {answer : Except MeterError Unit}
    (search : Search) : .create settings answer ∉ search.events := by
  unfold Search.events
  split <;> simp

theorem refusal_mem_events_iff {settings : EngineSettings} :
    .create settings (.error cause) ∈ s.events photo offset ↔
      settings = s.recognizer.settings ∧ s.course = .refused cause := by
  rcases s with ⟨r, reason | reason | searches⟩
  · simp [events]
    grind
  · simp [events]
  · simp [events, create_not_mem_events]

theorem hasEngine_of_not_mem
    (h : ∀ settings cause, .create settings (.error cause) ∉ s.events photo offset) :
    s.hasEngine = true := by
  unfold hasEngine
  split
  · next cause refused => exact absurd (refusal_mem_events_iff.2 ⟨rfl, refused⟩) (h _ cause)
  · rfl

/-- Nothing but a fatal refusal ends a tour early. -/
theorem findSome?_halt?_eq_none {sessions : List Session}
    (soft : ∀ settings cause, .create settings (.error cause) ∈
      sessions.flatMap (events photo offset) → cause.isFatal = false) :
    sessions.findSome? halt? = none := by
  refine List.findSome?_eq_none_iff.2 fun s mem => ?_
  rw [Option.eq_none_iff_forall_ne_some]
  intro cause halt
  obtain ⟨refused, fatal⟩ := halt?_eq_some_iff.1 halt
  have created : .create s.recognizer.settings (.error cause) ∈ s.events photo offset :=
    refusal_mem_events_iff.2 ⟨rfl, refused⟩
  simp [soft _ cause (List.mem_flatMap.2 ⟨s, mem, created⟩)] at fatal

/-- Without an engine a session leaves no mark. -/
theorem flatMap_observations_filter (sessions : List Session) :
    (sessions.filter hasEngine).flatMap observations = sessions.flatMap observations := by
  induction sessions with
  | nil => rfl
  | cons s more ih =>
    rcases s with ⟨r, reason | reason | searches⟩ <;>
      simp [List.filter_cons, hasEngine, observations, ih]

end Session

namespace Meter
variable {σ α : Type} [Amount α]

theorem readings_cycleOf_eq_error_iff [ImageLibrary] {m : Meter} {photo : RgbaImage} {sessions : List Session}
    (tour : Tour (m.upright photo) (m.offset photo) m.textRecognizers sessions) (files : Files)
    (limit : Nat) (time : Timestamp) (cause : MeterError) :
    (m.cycleOf files limit time photo sessions : Cycle α).readings = .error cause ↔
      ∃ s ∈ sessions, s.halt? = some cause := by
  constructor
  · intro error
    cases h : sessions.findSome? Session.halt? with
    | none => simp [cycleOf, h] at error
    | some first =>
      obtain rfl : first = cause := by simpa [cycleOf, h] using error
      exact List.exists_of_findSome?_eq_some h
  · rintro ⟨s, mem, halt⟩
    simp [cycleOf, tour.halt?_eq mem halt]

/-- An engine that cannot be had ends a cycle if and only if the reason is fatal. If none is fatal,
the readings are those of the recognizers with an engine. -/
theorem read_eq_error_iff_of_refused [ImageLibrary] (b : Backend σ) (m : Meter) (files : Files) {limit : Nat}
    (time : Timestamp) {photo : RgbaImage} (room : limit ≠ 0)
    (readable : files.picture? m.file = some photo) (s : σ) :
    let run : Cycle α × σ × List EngineEvent := m.read b.traced files limit time (s, [])
    (∀ settings cause, .create settings (.error cause) ∈ run.2.2 →
      (run.1.readings = .error cause ↔ cause.isFatal = true)) ∧
    ((∀ settings cause, .create settings (.error cause) ∈ run.2.2 → cause.isFatal = false) →
      ∃ sessions : List Session,
        sessions.map Session.recognizer = m.textRecognizers ∧
        (∀ session ∈ sessions, session.Orderly (m.upright photo) (m.offset photo)) ∧
        run.2.2 = sessions.flatMap (Session.events (m.upright photo) (m.offset photo)) ∧
        run.1.readings = .ok ((Readings.empty.noteAll
          ((sessions.filter Session.hasEngine).flatMap Session.observations)).emit limit
            time)) := by
  obtain ⟨sessions, t, tour, -, run⟩ := m.read_traced (α := α) b files time room readable s []
  simp only [run, List.nil_append]
  refine ⟨fun settings cause created => ?_, fun soft => ?_⟩
  · rw [readings_cycleOf_eq_error_iff tour]
    obtain ⟨session, mem, inside⟩ := List.mem_flatMap.1 created
    obtain ⟨-, refused⟩ := Session.refusal_mem_events_iff.1 inside
    constructor
    · rintro ⟨other, -, halt⟩
      exact (Session.halt?_eq_some_iff.1 halt).2
    · intro fatal
      exact ⟨session, mem, Session.halt?_eq_some_iff.2 ⟨refused, fatal⟩⟩
  · have open' := Session.findSome?_halt?_eq_none soft
    refine ⟨sessions, tour.map_recognizer open', tour.orderly, rfl, ?_⟩
    simp [cycleOf, open', Session.flatMap_observations_filter]

/-- Two recognizers share an identifier and one gets no engine: the reading is that of the other. -/
theorem read_of_refused_io :
    let m := Sample.meter ["deu", "eng"]
    let run : Cycle Float × Unit × List EngineEvent :=
      m.read (Sample.backend "eng" [Sample.seven]).traced Sample.files 10 ⟨0, 0⟩ ((), [])
    Sample.shown run.1 = some [("id1", 77.0), ("conf1", 90.0)] ∧
      (∃ settings cause, .create settings (.error cause) ∈ run.2.2 ∧
        run.1.readings ≠ .error cause) ∧
      ∃ sessions : List Session, sessions.map Session.recognizer = m.textRecognizers ∧
        run.1.readings = .ok ((Readings.empty.noteAll
          ((sessions.filter Session.hasEngine).flatMap Session.observations)).emit 10 ⟨0, 0⟩) := by
  intro m run
  obtain ⟨error_iff, given⟩ := read_eq_error_iff_of_refused (α := Float)
    (Sample.backend "eng" [Sample.seven]) m Sample.files ⟨0, 0⟩
    (by decide : (10 : Nat) ≠ 0) Sample.picture?_files ()
  have refused : run.2.2.any (fun e => e.refusal?.isSome) = true := by decide +kernel
  have mild : run.2.2.all (fun e => e.refusal?.all fun cause => !cause.isFatal) = true := by
    decide +kernel
  have soft : ∀ settings cause, .create settings (.error cause) ∈ run.2.2 →
      cause.isFatal = false := by
    intro settings cause mem
    simpa [EngineEvent.refusal?] using List.all_eq_true.1 mild _ mem
  refine ⟨by decide +kernel, ?_, ?_⟩
  · obtain ⟨e, mem, told⟩ := List.any_eq_true.1 refused
    obtain ⟨cause, told⟩ := Option.isSome_iff_exists.1 told
    obtain ⟨settings, rfl⟩ := EngineEvent.refusal?_eq_some_iff.1 told
    refine ⟨settings, cause, mem, fun error => ?_⟩
    have fatal := (error_iff settings cause mem).1 error
    simp [soft settings cause mem] at fatal
  · obtain ⟨sessions, all, -, -, readings⟩ := given soft
    exact ⟨sessions, all, readings⟩

end Meter
end MeterSight
