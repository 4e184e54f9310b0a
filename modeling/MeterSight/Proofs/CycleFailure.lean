import MeterSight.Proofs.HandleProtocol
import MeterSight.Proofs.Refusal

/-!
# Failed cycles

A cycle fails in one way only: some engine cannot be had, for a fatal reason. That is then the last
thing asked in the cycle, and nothing is written. Whatever else goes wrong costs readings at most.
-/
namespace MeterSight

/-- The settings of an engine that was asked for. -/
def EngineEvent.wanted? : EngineEvent → Option EngineSettings
  | create settings _ => some settings
  | _ => none

namespace Session
variable {photo : RgbaImage} {offset : Offset}

theorem filterMap_wanted?_events (s : Session) :
    (s.events photo offset).filterMap EngineEvent.wanted? = [s.recognizer.settings] := by
  rcases s with ⟨r, cause | cause | searches⟩
  · rfl
  · rfl
  · have searched : (searches.flatMap Search.events).filterMap EngineEvent.wanted? = [] :=
      Search.filterMap_flatMap_events (fun _ => rfl) (fun _ => rfl) searches
    simp only [events, List.filterMap_cons, List.filterMap_append, EngineEvent.wanted?, searched]
    rfl

theorem filterMap_wanted?_flatMap_events (sessions : List Session) :
    (sessions.flatMap (events photo offset)).filterMap EngineEvent.wanted? =
      sessions.map fun s => s.recognizer.settings := by
  rw [List.filterMap_flatMap, List.map_eq_flatMap]
  exact congrArg (sessions.flatMap ·) (funext filterMap_wanted?_events)

theorem isFatal_eq_false_of_halt?_eq_none {sessions : List Session}
    (open' : ∀ s ∈ sessions, s.halt? = none) {settings : EngineSettings} {reason : MeterError}
    (mem : .create settings (.error reason) ∈ sessions.flatMap (events photo offset)) :
    reason.isFatal = false := by
  obtain ⟨s, inside, created⟩ := List.mem_flatMap.1 mem
  obtain ⟨-, refused⟩ := refusal_mem_events_iff.1 created
  by_contra fatal
  have halt : s.halt? = some reason := halt?_eq_some_iff.2 ⟨refused, by simpa using fatal⟩
  simp [open' s inside] at halt

end Session

/-- A tour that is ended early is ended by its last session, at the recognizer it has come to. -/
theorem Tour.exists_of_halt {photo : RgbaImage} {offset : Offset}
    {recognizers : List TextRecognizer} {sessions : List Session} {cause : MeterError}
    (h : Tour photo offset recognizers sessions)
    (halt : sessions.findSome? Session.halt? = some cause) :
    ∃ (earlier : List Session) (r : TextRecognizer) (after : List TextRecognizer),
      sessions = earlier ++ [⟨r, .refused cause⟩] ∧
      recognizers = earlier.map Session.recognizer ++ r :: after ∧
      cause.isFatal = true ∧ ∀ s ∈ earlier, s.halt? = none := by
  induction h with
  | done => simp at halt
  | @halted s more reason _ ended =>
    obtain rfl : reason = cause := by simpa [ended] using halt
    obtain ⟨refused, fatal⟩ := Session.halt?_eq_some_iff.1 ended
    exact ⟨[], s.recognizer, more, by simp [← refused], rfl, fatal, by simp⟩
  | @on s more sessions _ goes _ ih =>
    obtain ⟨earlier, r, after, rfl, rfl, fatal, open'⟩ := ih (by simpa [goes] using halt)
    exact ⟨s :: earlier, r, after, rfl, rfl, fatal, List.forall_mem_cons.2 ⟨goes, open'⟩⟩

namespace Meter
variable {σ α : Type} [Amount α]

/-- The last thing asked is for the engine of some recognizer, which cannot be had for a fatal
reason. Those of the recognizers before it were asked for in order, and none of them was refused for
such a reason. -/
def EndsRefused (m : Meter) (events : List EngineEvent) (cause : MeterError) : Prop :=
  ∃ (before : List TextRecognizer) (r : TextRecognizer) (after : List TextRecognizer)
    (earlier : List EngineEvent),
    m.textRecognizers = before ++ r :: after ∧
    events = earlier ++ [.create r.settings (.error cause)] ∧
    earlier.filterMap EngineEvent.wanted? = before.map TextRecognizer.settings ∧
    (∀ settings reason, .create settings (.error reason) ∈ earlier → reason.isFatal = false) ∧
    cause.isFatal = true

theorem endsRefused_of_tour {m : Meter} {photo : RgbaImage} {offset : Offset}
    {sessions : List Session} (tour : Tour photo offset m.textRecognizers sessions)
    {cause : MeterError} (halt : sessions.findSome? Session.halt? = some cause) :
    m.EndsRefused (sessions.flatMap (Session.events photo offset)) cause := by
  obtain ⟨earlier, r, after, rfl, order, fatal, open'⟩ := tour.exists_of_halt halt
  refine ⟨earlier.map Session.recognizer, r, after, earlier.flatMap (Session.events photo offset),
    order, ?_, ?_, ?_, fatal⟩
  · simp [Session.events]
  · rw [Session.filterMap_wanted?_flatMap_events, List.map_map]
    rfl
  · intro settings reason mem
    exact Session.isFatal_eq_false_of_halt?_eq_none open' mem

/-- A cycle fails if and only if an engine is refused for a fatal reason, and then with this reason.
There were room and a photo then, no engine is left, and the files are as before. As long as no
engine is refused for such a reason there are readings, whatever else goes wrong. -/
theorem read_fails_iff [ImageLibrary] (b : Backend σ) (m : Meter) (files : Files) (limit : Nat)
    (time : Timestamp) (s : σ) :
    let run : Cycle α × σ × List EngineEvent := m.read b.traced files limit time (s, [])
    (∀ cause, run.1.readings = .error cause ↔ m.EndsRefused run.2.2 cause) ∧
      (∀ cause, run.1.readings = .error cause →
        limit ≠ 0 ∧ (∃ photo, files.picture? m.file = some photo) ∧ living run.2.2 = 0 ∧
          run.1.files = some files) ∧
      ((∀ settings reason, .create settings (.error reason) ∈ run.2.2 → reason.isFatal = false) →
        ∃ readings, run.1.readings = .ok readings) := by
  intro run
  by_cases idle : limit = 0 ∨ files.picture? m.file = none
  · have still : run = (⟨.ok [], some files⟩, s, []) := by
      exact m.read_eq_of_nothing_to_read b.traced files time idle (s, [])
    simp [still, EndsRefused]
  obtain ⟨room, present⟩ := not_or.1 idle
  obtain ⟨photo, readable⟩ := Option.ne_none_iff_exists'.1 present
  obtain ⟨sessions, t, tour, -, traced⟩ := m.read_traced (α := α) b files time room readable s []
  have ran : run = (m.cycleOf files limit time photo sessions, t,
      sessions.flatMap (Session.events (m.upright photo) (m.offset photo))) := by
    simpa using traced
  have error_iff (cause : MeterError) : run.1.readings = .error cause ↔
      sessions.findSome? Session.halt? = some cause := by
    rw [ran]
    cases halt : sessions.findSome? Session.halt? <;> simp [cycleOf, halt]
  refine ⟨fun cause => ⟨fun failed => ?_, ?_⟩, fun cause failed => ?_, fun soft => ?_⟩
  · rw [ran]
    exact endsRefused_of_tour tour ((error_iff cause).1 failed)
  · rintro ⟨before, r, after, earlier, -, last, -, -, fatal⟩
    have asked : .create r.settings (.error cause) ∈ run.2.2 := by simp [last]
    rw [ran] at asked
    obtain ⟨session, mem, created⟩ := List.mem_flatMap.1 asked
    obtain ⟨-, refused⟩ := Session.refusal_mem_events_iff.1 created
    have halt := tour.halt?_eq mem (Session.halt?_eq_some_iff.2 ⟨refused, fatal⟩)
    exact (error_iff cause).2 halt
  · have halt := (error_iff cause).1 failed
    have settled : (0 : Int) = 0 + living run.2.2 := by
      rw [ran]
      exact Handle.count_foldlM_next? (Session.foldlM_next?_flatMap_events tour.orderly)
    refine ⟨room, ⟨photo, readable⟩, by omega, ?_⟩
    simp [ran, cycleOf, halt]
  · rw [ran] at soft ⊢
    simp [cycleOf, Session.findSome?_halt?_eq_none soft]

/-- The engine for the second of three languages does not start, so the third is never asked for and
no montage is written. -/
theorem read_fails_iff_second :
    let m := { Sample.meter ["eng", "deu", "fra"] with debug := true }
    let b : Backend Unit := { Sample.backend "eng" [Sample.seven] with
      create := fun settings =>
        return if settings.language ≠ "deu" then .ok () else .error (.engine (.stated "no data")) }
    let run : Cycle Float × Unit × List EngineEvent :=
      m.read b.traced Sample.files 10 ⟨0, 0⟩ ((), [])
    run.2.2.length = 8 ∧ run.1.files = some Sample.files ∧ living run.2.2 = 0 ∧
      ∃ cause, run.1.readings = .error cause ∧ m.EndsRefused run.2.2 cause := by
  intro m b run
  obtain ⟨error_iff, left, -⟩ := read_fails_iff (α := Float) b m Sample.files 10 ⟨0, 0⟩ ()
  have nothing : Sample.shown run.1 = none := by decide +kernel
  cases readings : run.1.readings with
  | ok given => simp [Sample.shown, readings] at nothing
  | error cause =>
    obtain ⟨-, -, settled, kept⟩ := left cause readings
    exact ⟨by decide +kernel, kept, settled, cause, rfl, (error_iff cause).1 readings⟩

end Meter
end MeterSight
