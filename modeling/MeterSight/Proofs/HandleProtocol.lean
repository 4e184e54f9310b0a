import MeterSight.Proofs.Tour

/-!
# The life of an engine

An engine is had, takes an image, is pointed at a rectangle, asked for words, pointed at the next
one, and let go. No step of this may be left out: words are asked for only right after a rectangle
was set, and the next engine is had only when the last one is gone. A cycle keeps to it, and what it
asks for hangs on the answers to `create` and `image` alone.
-/
namespace MeterSight

/-- What is asked of a backend, whatever it answers. -/
inductive EngineCall where
  | create (settings : EngineSettings)
  | image (img : GrayImage)
  | rectangle (r : Rect)
  | recognize
  | release
  deriving DecidableEq

namespace EngineEvent

def call : EngineEvent → EngineCall
  | create settings _ => .create settings
  | image img _ => .image img
  | rectangle r => .rectangle r
  | recognize _ => .recognize
  | release => .release

/-- The answer to a step that makes an engine ready. -/
def preparation? : EngineEvent → Option (Except MeterError Unit)
  | create _ answer => some answer
  | image _ answer => some answer
  | _ => none

/-- How many engines there are more than before. -/
def gain : EngineEvent → Int
  | create _ (.ok _) => 1
  | release => -1
  | _ => 0

end EngineEvent

/-- The number of engines that live after some events. -/
def living : List EngineEvent → Int
  | [] => 0
  | e :: more => e.gain + living more

/-- What has become of the engine. -/
inductive Handle where
  | absent
  | fresh
  /-- It did not take the image. -/
  | unfit
  | shown
  /-- A rectangle was set, and no words were asked for since. -/
  | aimed
  deriving DecidableEq

namespace Handle

/-- The engine after an event, if that is one that may happen to it. -/
def next? : Handle → EngineEvent → Option Handle
  | absent, .create _ (.ok _) => some fresh
  | absent, .create _ (.error _) => some absent
  | fresh, .image _ (.ok _) => some shown
  | fresh, .image _ (.error _) => some unfit
  | shown, .rectangle r => if r.IsEmpty then none else some aimed
  | aimed, .recognize _ => some shown
  | unfit, .release => some absent
  | shown, .release => some absent
  | _, _ => none

/-- An engine that is not absent lives. -/
def count : Handle → Int
  | absent => 0
  | _ => 1

theorem count_eq_zero_or_one (h : Handle) : h.count = 0 ∨ h.count = 1 := by
  cases h <;> simp [count]

variable {h h' : Handle}

theorem count_next? {e : EngineEvent} (step : h.next? e = some h') :
    h'.count = h.count + e.gain := by
  unfold next? at step
  split at step <;> simp_all [count, EngineEvent.gain] <;> grind [count]

theorem count_foldlM_next? {events : List EngineEvent}
    (run : events.foldlM next? h = some h') : h'.count = h.count + living events := by
  induction events generalizing h with
  | nil =>
    obtain rfl : h = h' := by simpa using run
    simp [living]
  | cons e more ih =>
    obtain ⟨mid, step, rest⟩ := Option.bind_eq_some_iff.1 run
    have last := ih rest
    have first := count_next? step
    simp only [living]
    omega

/-- Whoever keeps to the protocol never has two engines at a time. -/
theorem living_of_isPrefix {events before : List EngineEvent}
    (run : events.foldlM next? absent = some h') (start : before <+: events) :
    living before = 0 ∨ living before = 1 := by
  obtain ⟨after, rfl⟩ := start
  rw [List.foldlM_append] at run
  obtain ⟨mid, run, -⟩ := Option.bind_eq_some_iff.1 run
  have counted : mid.count = 0 + living before := count_foldlM_next? run
  have zero_or_one := mid.count_eq_zero_or_one
  omega

/-- Blocks of events that all lead back to where they began may follow each other. -/
theorem foldlM_next?_flatMap {ι : Type} {blocks : ι → List EngineEvent} {l : List ι}
    (each : ∀ i ∈ l, (blocks i).foldlM next? h = some h) :
    (l.flatMap blocks).foldlM next? h = some h := by
  induction l with
  | nil => rfl
  | cons i more ih =>
    obtain ⟨first, rest⟩ := List.forall_mem_cons.1 each
    rw [List.flatMap_cons, List.foldlM_append, first]
    exact ih rest

end Handle

namespace Search

/-- A search keeps to the protocol: it asks for words once, right after it has set a rectangle. -/
theorem foldlM_next?_events {s : Search} (asked : s.answer.isSome ↔ ¬ s.rect.IsEmpty) :
    s.events.foldlM Handle.next? .shown = some .shown := by
  cases answered : s.answer with
  | none => simp [events, answered]
  | some answer =>
    have pixels : ¬ s.rect.IsEmpty := asked.1 (by simp [answered])
    simp [events, answered, Handle.next?, pixels]

end Search

namespace Session
variable {photo : RgbaImage} {offset : Offset} {s s' : Session}

/-- An engine that is had in a session is gone after it. -/
theorem foldlM_next?_events (orderly : s.Orderly photo offset) :
    (s.events photo offset).foldlM Handle.next? .absent = some .absent := by
  rcases s with ⟨r, cause | cause | searches⟩
  · rfl
  · rfl
  · have searched : (searches.flatMap Search.events).foldlM Handle.next? .shown = some .shown := by
      refine Handle.foldlM_next?_flatMap fun search mem => ?_
      exact Search.foldlM_next?_events (Search.asked_iff_of_forall₂ orderly search mem)
    simp [events, Handle.next?, List.foldlM_append, searched]

theorem foldlM_next?_flatMap_events {sessions : List Session}
    (orderly : ∀ s ∈ sessions, s.Orderly photo offset) :
    (sessions.flatMap (events photo offset)).foldlM Handle.next? .absent = some .absent :=
  Handle.foldlM_next?_flatMap fun s mem => foldlM_next?_events (orderly s mem)

/-- The answers with which a session begins. -/
def preparations (s : Session) : List (Except MeterError Unit) :=
  match s.course with
  | .refused cause => [.error cause]
  | .blind cause => [.ok (), .error cause]
  | .searched _ => [.ok (), .ok ()]

end Session

namespace TextRecognizer

/-- The regions that an engine is asked about. -/
def visible (r : TextRecognizer) (photo : RgbaImage) (offset : Offset) : List Region :=
  r.regions.filter fun region => ¬ (r.place photo offset region).IsEmpty

/-- What a recognizer asks for, told by the answers with which it begins. -/
def calls (r : TextRecognizer) (photo : RgbaImage) (offset : Offset) :
    List (Except MeterError Unit) → List EngineCall
  | [.ok (), .ok ()] =>
    .create r.settings :: .image (r.paper photo offset) ::
      ((r.visible photo offset).flatMap fun region =>
        [.rectangle (r.place photo offset region), .recognize]) ++ [.release]
  | [.ok (), .error _] => [.create r.settings, .image (r.paper photo offset), .release]
  | _ => [.create r.settings]

end TextRecognizer

namespace Search

/-- Searches hold nothing of what has to do with neither rectangles nor words. -/
theorem filterMap_flatMap_events {β : Type} {f : EngineEvent → Option β}
    (rectangle : ∀ r, f (.rectangle r) = none) (recognize : ∀ answer, f (.recognize answer) = none)
    (searches : List Search) : (searches.flatMap events).filterMap f = [] := by
  rw [List.filterMap_eq_nil_iff]
  intro e mem
  obtain ⟨s, -, inside⟩ := List.mem_flatMap.1 mem
  cases answered : s.answer with
  | none => simp [events, answered] at inside
  | some answer =>
    have either : e = .rectangle s.rect ∨ e = .recognize answer := by
      simpa [events, answered] using inside
    rcases either with rfl | rfl
    · exact rectangle s.rect
    · exact recognize answer

theorem map_call_flatMap_events {place : Region → Rect} {regions : List Region}
    {searches : List Search}
    (h : List.Forall₂ (fun region search => search.IsAt region (place region)) regions searches) :
    (searches.flatMap events).map EngineEvent.call =
      (regions.filter fun region => ¬ (place region).IsEmpty).flatMap
        fun region => [.rectangle (place region), .recognize] := by
  induction h with
  | nil => rfl
  | @cons region search regions searches isAt _ ih =>
    cases answered : search.answer with
    | none =>
      have empty : (place region).IsEmpty := by simpa [answered] using isAt.asked_iff
      simp [events, answered, empty, ih]
    | some answer =>
      have pixels : ¬ (place region).IsEmpty := by simpa [answered] using isAt.asked_iff
      simp [events, answered, pixels, ih, isAt.rect_eq, EngineEvent.call]

end Search

namespace Session
variable {photo : RgbaImage} {offset : Offset} {s s' : Session}

theorem filterMap_preparation?_events (s : Session) :
    (s.events photo offset).filterMap EngineEvent.preparation? = s.preparations := by
  rcases s with ⟨r, cause | cause | searches⟩
  · rfl
  · rfl
  · have searched : (searches.flatMap Search.events).filterMap EngineEvent.preparation? = [] :=
      Search.filterMap_flatMap_events (fun _ => rfl) (fun _ => rfl) searches
    simp only [events, preparations, List.filterMap_cons, List.filterMap_append,
      EngineEvent.preparation?, searched]
    rfl

/-- The answers with which a session begins decide what is asked in it. -/
theorem map_call_events (orderly : s.Orderly photo offset) :
    (s.events photo offset).map EngineEvent.call =
      s.recognizer.calls photo offset s.preparations := by
  rcases s with ⟨r, cause | cause | searches⟩
  · rfl
  · rfl
  · have searched := Search.map_call_flatMap_events orderly
    simp [events, TextRecognizer.calls, preparations, EngineEvent.call, TextRecognizer.visible,
      searched]

theorem filterMap_preparation?_flatMap_events (sessions : List Session) :
    (sessions.flatMap (events photo offset)).filterMap EngineEvent.preparation? =
      sessions.flatMap preparations := by
  simp [List.filterMap_flatMap, filterMap_preparation?_events]

/-- It can be told from the answers where those of one session end. -/
theorem preparations_append_inj {more more' : List (Except MeterError Unit)}
    (eq : s.preparations ++ more = s'.preparations ++ more') :
    s.preparations = s'.preparations ∧ more = more' := by
  rcases s with ⟨r, cause | cause | searches⟩ <;>
    rcases s' with ⟨r', cause' | cause' | searches'⟩ <;>
    simp_all [preparations]

theorem halt?_eq_of_preparations_eq (eq : s.preparations = s'.preparations) :
    s.halt? = s'.halt? := by
  rcases s with ⟨r, cause | cause | searches⟩ <;>
    rcases s' with ⟨r', cause' | cause' | searches'⟩ <;>
    simp_all [preparations, halt?]

end Session

namespace Tour
variable {photo : RgbaImage} {offset : Offset} {sessions sessions' : List Session}

/-- Two tours of the same recognizers that get the same answers to `create` and `image` ask for the
same, whatever words are found on them. -/
theorem map_call_eq {recognizers : List TextRecognizer}
    (h : Tour photo offset recognizers sessions) (h' : Tour photo offset recognizers sessions')
    (same : sessions.flatMap Session.preparations = sessions'.flatMap Session.preparations) :
    (sessions.flatMap (Session.events photo offset)).map EngineEvent.call =
      (sessions'.flatMap (Session.events photo offset)).map EngineEvent.call := by
  induction recognizers generalizing sessions sessions' with
  | nil => rw [h.eq_nil, h'.eq_nil]
  | cons r more ih =>
    obtain ⟨s, rest, rfl, rfl, orderly, later⟩ := h.exists_of_cons
    obtain ⟨s', rest', rfl, own, orderly', later'⟩ := h'.exists_of_cons
    obtain ⟨first, others⟩ := Session.preparations_append_inj (by simpa using same)
    have halts := Session.halt?_eq_of_preparations_eq first
    have calls : (s.events photo offset).map EngineEvent.call =
        (s'.events photo offset).map EngineEvent.call := by
      rw [Session.map_call_events orderly, Session.map_call_events orderly', own, first]
    rw [List.flatMap_cons, List.flatMap_cons, List.map_append, List.map_append, calls]
    congr 1
    rcases later with ⟨halt, rfl⟩ | ⟨halt, tour⟩
    · rcases later' with ⟨-, rfl⟩ | ⟨halt', -⟩
      · rfl
      · simp [halts, halt'] at halt
    · rcases later' with ⟨halt', -⟩ | ⟨-, tour'⟩
      · simp [← halts, halt] at halt'
      · exact ih tour tour' others

end Tour

namespace Sample

/-- The first of two engines cannot be had, the second takes its image. -/
def refusedOnce : List (Except MeterError Unit) → Bool
  | [.error (.io .missing), .ok (), .ok ()] => true
  | _ => false

theorem eq_of_refusedOnce {answers : List (Except MeterError Unit)}
    (h : refusedOnce answers = true) : answers = [.error (.io .missing), .ok (), .ok ()] := by
  unfold refusedOnce at h
  split at h
  · rfl
  · contradiction

end Sample

namespace Meter
variable {σ α : Type} [Amount α]

/-- Everything asked in a cycle is that of the sessions of its recognizers, one after the other as
far as they get. There is at most one engine at any time and none is left in the end, and words are
asked for only where a rectangle was just set. What is asked does not hang on the words. -/
theorem read_keeps_protocol [ImageLibrary] (b : Backend σ) (m : Meter) (files : Files) {limit : Nat}
    (time : Timestamp) {photo : RgbaImage} (room : limit ≠ 0)
    (readable : files.picture? m.file = some photo) (s : σ) :
    let events := (m.read (α := α) b.traced files limit time (s, [])).2.2
    (∃ sessions : List Session,
      Tour (m.upright photo) (m.offset photo) m.textRecognizers sessions ∧
      events = sessions.flatMap (Session.events (m.upright photo) (m.offset photo))) ∧
    events.foldlM Handle.next? .absent = some .absent ∧
    (∀ before, before <+: events → living before = 0 ∨ living before = 1) ∧
    living events = 0 ∧
    ∀ {τ : Type} (b' : Backend τ) (s' : τ),
      let events' := (m.read (α := α) b'.traced files limit time (s', [])).2.2
      events'.filterMap EngineEvent.preparation? = events.filterMap EngineEvent.preparation? →
        events'.map EngineEvent.call = events.map EngineEvent.call := by
  intro events
  obtain ⟨sessions, t, tour, -, traced⟩ := m.read_traced (α := α) b files time room readable s []
  have asked : events = sessions.flatMap (Session.events (m.upright photo) (m.offset photo)) := by
    simp [events, traced]
  have kept : events.foldlM Handle.next? .absent = some .absent := by
    rw [asked]
    exact Session.foldlM_next?_flatMap_events tour.orderly
  have none : (0 : Int) = 0 + living events := Handle.count_foldlM_next? kept
  refine ⟨⟨sessions, tour, asked⟩, kept, fun before start => Handle.living_of_isPrefix kept start,
    by omega, ?_⟩
  intro τ b' s' events' same
  obtain ⟨sessions', t', tour', -, traced'⟩ :=
    m.read_traced (α := α) b' files time room readable s' []
  have asked' : events' =
      sessions'.flatMap (Session.events (m.upright photo) (m.offset photo)) := by
    simp [events', traced']
  rw [asked, asked', Session.filterMap_preparation?_flatMap_events,
    Session.filterMap_preparation?_flatMap_events] at same
  rw [asked, asked']
  exact tour'.map_call_eq tour same

/-- One recognizer of two gets no engine, and the engine of the other may find words or fail. -/
theorem read_keeps_protocol_past_refusal :
    let m := Sample.meter ["deu", "eng"]
    let good := Sample.backend "eng" [Sample.seven]
    let poor : Backend Unit := { good with recognize := return .error (.io .missing) }
    let events (b : Backend Unit) : List EngineEvent :=
      (m.read (α := Float) b.traced Sample.files 10 ⟨0, 0⟩ ((), [])).2.2
    (10 : Nat) ≠ 0 ∧ Sample.files.picture? m.file = some Sample.photo ∧
      (events good).length = 8 ∧ (events good).foldlM Handle.next? .absent = some .absent ∧
      living (events good) = 0 ∧
      (events poor).map EngineEvent.call = (events good).map EngineEvent.call := by
  intro m good poor events
  have length : (events good).length = 8 := by decide +kernel
  have refused := Sample.eq_of_refusedOnce
    (by decide +kernel : Sample.refusedOnce ((events good).filterMap EngineEvent.preparation?))
  have refused' := Sample.eq_of_refusedOnce
    (by decide +kernel : Sample.refusedOnce ((events poor).filterMap EngineEvent.preparation?))
  obtain ⟨-, kept, -, none, same⟩ := read_keeps_protocol (α := Float) good m Sample.files ⟨0, 0⟩
    (by decide : (10 : Nat) ≠ 0) Sample.picture?_files ()
  exact ⟨by decide, Sample.picture?_files, length, kept, none,
    same poor () (refused'.trans refused.symm)⟩

end Meter
end MeterSight
