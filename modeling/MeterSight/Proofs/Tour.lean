import MeterSight.Meter
import MeterSight.Proofs.Session

/-!
# Tours

The sessions of one cycle: each recognizer that reads characters has one, in order, until an engine
cannot be had for a fatal reason. A cycle asks for nothing else, and what it gives is told by its
tour.
-/
namespace MeterSight

namespace Session

/-- The error that this session ends the cycle with, if it does. -/
def halt? (s : Session) : Option MeterError :=
  match s.course with
  | .refused cause => if cause.isFatal then some cause else none
  | _ => none

/-- Everything that is seen in sessions, unless one ended them, with the frames so far. -/
def conclude (photo : RgbaImage) (offset : Offset) (held : Option (List Frame))
    (sessions : List Session) : Except MeterError Sighting :=
  match sessions.findSome? halt? with
  | some cause => .error cause
  | none =>
    .ok ⟨sessions.flatMap observations, held.map (· ++ sessions.flatMap (frames photo offset))⟩

variable {photo : RgbaImage} {offset : Offset} {s : Session} {cause : MeterError}

theorem halt?_eq_some_iff :
    s.halt? = some cause ↔ s.course = .refused cause ∧ cause.isFatal = true := by
  rcases s with ⟨r, reason | reason | searches⟩ <;> simp [halt?]
  grind

theorem outcome_of_halt? (held : Option (List Frame)) (h : s.halt? = some cause) :
    s.outcome photo offset held = .error cause := by
  simp [outcome, (halt?_eq_some_iff.1 h).1]

/-- A session that does not end the cycle tells what was seen, or fails without having seen
anything. -/
theorem outcome_of_halt?_eq_none (photo : RgbaImage) (offset : Offset)
    (held : Option (List Frame)) (h : s.halt? = none) :
    s.outcome photo offset held =
        .ok ⟨s.observations, held.map (· ++ s.frames photo offset)⟩ ∨
      ∃ cause, s.outcome photo offset held = .error cause ∧ cause.isFatal = false ∧
        s.observations = [] ∧ s.frames photo offset = [] := by
  rcases s with ⟨r, reason | reason | searches⟩
  · refine .inr ⟨reason, rfl, ?_, rfl, rfl⟩
    simpa [halt?] using h
  · exact .inl rfl
  · exact .inl rfl

/-- It can be told from the events where those of one session end, and how it went. -/
theorem events_append_inj {s' : Session} (orderly : s.Orderly photo offset)
    (orderly' : s'.Orderly photo offset) (own : s'.recognizer = s.recognizer)
    {more more' : List EngineEvent}
    (eq : s.events photo offset ++ more = s'.events photo offset ++ more') :
    s = s' ∧ more = more' := by
  rcases s with ⟨r, cause | cause | searches⟩ <;>
    rcases s' with ⟨r', cause' | cause' | searches'⟩ <;> obtain rfl := own <;>
    simp [events] at eq ⊢
  · exact eq
  · exact eq
  · obtain ⟨rfl, rest⟩ := Search.flatMap_events_append_inj orderly orderly' eq
    exact ⟨rfl, by simpa using rest⟩

end Session

/-- Where no frames are collected there are none afterwards. -/
theorem TextRecognizer.frames_of_sight_none {σ : Type} {b : Backend σ} {r : TextRecognizer}
    {photo : RgbaImage} {offset : Offset} {s t : σ} {seen : Sighting}
    (run : r.sight b photo offset none s = (.ok seen, t)) : seen.frames = none := by
  obtain ⟨session, u, -, -, told⟩ := r.sight_traced b photo offset s []
  rw [(told none).1] at run
  rcases session with ⟨r, cause | cause | searches⟩ <;> cases run <;> rfl

/-- The sessions of recognizers with their engines, one after the other. -/
inductive Tour (photo : RgbaImage) (offset : Offset) :
    List TextRecognizer → List Session → Prop where
  | done : Tour photo offset [] []
  | halted {s more cause} : s.Orderly photo offset → s.halt? = some cause →
      Tour photo offset (s.recognizer :: more) [s]
  | on {s more sessions} : s.Orderly photo offset → s.halt? = none →
      Tour photo offset more sessions → Tour photo offset (s.recognizer :: more) (s :: sessions)

namespace Tour
variable {photo : RgbaImage} {offset : Offset} {recognizers : List TextRecognizer}
  {sessions : List Session}

theorem orderly (h : Tour photo offset recognizers sessions) :
    ∀ s ∈ sessions, s.Orderly photo offset := by
  induction h with
  | done => simp
  | halted orderly _ => simpa using orderly
  | on orderly _ _ ih => simpa using ⟨orderly, ih⟩

/-- A tour that nothing ends gets to all recognizers. -/
theorem map_recognizer (h : Tour photo offset recognizers sessions)
    (open' : sessions.findSome? Session.halt? = none) :
    sessions.map Session.recognizer = recognizers := by
  induction h with
  | done => rfl
  | halted _ halt => simp [halt] at open'
  | on _ halt _ ih => simp [ih (by simpa [halt] using open')]

/-- Only the last session can end a tour. -/
theorem halt?_eq (h : Tour photo offset recognizers sessions) {s : Session} (mem : s ∈ sessions)
    {cause : MeterError} (halt : s.halt? = some cause) :
    sessions.findSome? Session.halt? = some cause := by
  induction h with
  | done => simp at mem
  | halted =>
    obtain rfl := List.mem_singleton.1 mem
    simp [halt]
  | on _ none _ ih =>
    rcases List.mem_cons.1 mem with rfl | mem
    · simp [halt] at none
    · simpa [none] using ih mem

theorem eq_nil (h : Tour photo offset [] sessions) : sessions = [] := by
  cases h
  rfl

/-- The first recognizer has the first session, and the tour goes on if that does not end it. -/
theorem exists_of_cons {r : TextRecognizer} {more : List TextRecognizer}
    (h : Tour photo offset (r :: more) sessions) :
    ∃ s rest, sessions = s :: rest ∧ s.recognizer = r ∧ s.Orderly photo offset ∧
      (s.halt?.isSome = true ∧ rest = [] ∨ s.halt? = none ∧ Tour photo offset more rest) := by
  generalize shape : r :: more = recognizers at h
  cases h with
  | done => contradiction
  | @halted s _ _ orderly halt =>
    obtain ⟨rfl, rfl⟩ := List.cons.inj shape
    exact ⟨s, [], rfl, rfl, orderly, .inl ⟨by simp [halt], rfl⟩⟩
  | @on s _ rest orderly halt tour =>
    obtain ⟨rfl, rfl⟩ := List.cons.inj shape
    exact ⟨s, rest, rfl, rfl, orderly, .inr ⟨halt, tour⟩⟩

/-- The events tell the sessions of a tour. -/
theorem eq_of_events_eq {sessions' : List Session} (h : Tour photo offset recognizers sessions)
    (h' : Tour photo offset recognizers sessions')
    (same : sessions.flatMap (Session.events photo offset) =
      sessions'.flatMap (Session.events photo offset)) : sessions = sessions' := by
  induction recognizers generalizing sessions sessions' with
  | nil => rw [h.eq_nil, h'.eq_nil]
  | cons r more ih =>
    obtain ⟨s, rest, rfl, rfl, orderly, later⟩ := h.exists_of_cons
    obtain ⟨s', rest', rfl, own, orderly', later'⟩ := h'.exists_of_cons
    obtain ⟨rfl, others⟩ := Session.events_append_inj orderly orderly' own (by simpa using same)
    rcases later with ⟨halt, rfl⟩ | ⟨halt, tour⟩ <;>
      rcases later' with ⟨halt', rfl⟩ | ⟨halt', tour'⟩
    · rfl
    · simp [halt'] at halt
    · simp [halt] at halt'
    · rw [ih tour tour' others]

end Tour

namespace Recognizer

/-- A recognizer that reads characters. -/
def text? : Recognizer → Option TextRecognizer
  | text r => some r
  | needle _ => none

end Recognizer

/-- The edge pictures in which the drift of an image is found, if the window fits. -/
def DriftWindow.edgeFrames (w : DriftWindow) (img : RgbaImage) : List Frame :=
  if w.Fits img.width img.height then
    [Frame.ofGray "autofix vertical edges" (img.crop w.rect).toGray.verticalEdges,
      Frame.ofGray "autofix horizontal edges" (img.crop w.rect).toGray.horizontalEdges]
  else []

/-- Frames or not, the same is detected, and the same frames are put behind those there are. -/
theorem DriftWindow.detect_mk (w : DriftWindow) (img : RgbaImage) (held : Option (List Frame)) :
    w.detect img held = ((w.detect img none).1, held.map (· ++ w.edgeFrames img)) := by
  unfold detect edgeFrames
  split
  · dsimp only
    split <;> rfl
  · simp

namespace Meter
variable {σ : Type}

section step
variable {b : Backend σ} {photo : RgbaImage} {offset : Offset} {more : List Recognizer}
  {held : Option (List Frame)} {session : Session} {s t : σ}

theorem sightAll_of_halt?_eq_some {cause : MeterError} (halt : session.halt? = some cause)
    (first : session.recognizer.sight b photo offset held s =
      (session.outcome photo offset held, t)) :
    sightAll b photo offset (.text session.recognizer :: more) held s = (.error cause, t) := by
  obtain ⟨-, fatal⟩ := Session.halt?_eq_some_iff.1 halt
  simp [sightAll, Recognizer.sight, stateM_bind_apply, stateM_pure_apply, first,
    Session.outcome_of_halt? held halt, fatal]

/-- The frames of a session that goes on are there for the next one. -/
theorem sightAll_of_halt?_eq_none {sessions : List Session} {u : σ} (halt : session.halt? = none)
    (first : session.recognizer.sight b photo offset held s =
      (session.outcome photo offset held, t))
    (rest : ∀ held, sightAll b photo offset more held t =
      (Session.conclude photo offset held sessions, u)) :
    sightAll b photo offset (.text session.recognizer :: more) held s =
      (Session.conclude photo offset held (session :: sessions), u) := by
  simp only [sightAll, Recognizer.sight, stateM_bind_apply, first]
  rcases Session.outcome_of_halt?_eq_none photo offset held halt with
    out | ⟨cause, out, soft, seen, shown⟩
  · simp only [out, stateM_bind_apply, rest]
    cases h : sessions.findSome? Session.halt? <;>
      simp [stateM_pure_apply, Session.conclude, halt, h, Function.comp_def]
  · simp [out, soft, rest, Session.conclude, halt, seen, shown]

theorem sightAll_needle (regions : List Region) :
    sightAll b photo offset (.needle regions :: more) held s =
      sightAll b photo offset more held s := by
  simp only [sightAll, Recognizer.sight, stateM_bind_apply, stateM_pure_apply, Sighting.nothing]
  rcases sightAll b photo offset more held s with ⟨_ | seen, t⟩ <;> rfl

end step

/-- Letting recognizers look at a photo is a tour, whatever the engines do. The tour is the same
whether or not frames are collected. -/
theorem sightAll_traced (b : Backend σ) (photo : RgbaImage) (offset : Offset)
    (recognizers : List Recognizer) (s : σ) (events : List EngineEvent) :
    ∃ (sessions : List Session) (t : σ),
      Tour photo offset (recognizers.filterMap Recognizer.text?) sessions ∧
      ∀ held,
        sightAll b photo offset recognizers held s =
          (Session.conclude photo offset held sessions, t) ∧
        sightAll b.traced photo offset recognizers held (s, events) =
          (Session.conclude photo offset held sessions, t,
            events ++ sessions.flatMap (Session.events photo offset)) := by
  induction recognizers generalizing s events with
  | nil =>
    refine ⟨[], s, .done, fun held => ⟨?_, ?_⟩⟩ <;>
      simp [sightAll, stateM_pure_apply, Session.conclude, Sighting.nothing]
  | cons r more ih =>
    cases r with
    | needle regions =>
      obtain ⟨sessions, t, tour, run⟩ := ih s events
      refine ⟨sessions, t, tour, fun held => ?_⟩
      rw [sightAll_needle, sightAll_needle]
      exact run held
    | text r =>
      obtain ⟨session, t, rfl, orderly, first⟩ := r.sight_traced b photo offset s events
      cases halt : session.halt? with
      | some cause =>
        refine ⟨[session], t, .halted orderly halt, fun held => ⟨?_, ?_⟩⟩
        · simp [sightAll_of_halt?_eq_some halt (first held).1, Session.conclude, halt]
        · simp [sightAll_of_halt?_eq_some halt (first held).2, Session.conclude, halt]
      | none =>
        obtain ⟨sessions, u, tour, rest⟩ := ih t (events ++ session.events photo offset)
        refine ⟨session :: sessions, u, .on orderly halt tour, fun held => ⟨?_, ?_⟩⟩
        · exact sightAll_of_halt?_eq_none halt (first held).1 fun held => (rest held).1
        · rw [sightAll_of_halt?_eq_none halt (first held).2 fun held => (rest held).2]
          simp

/-- Lets recognizers read a photo one after the other, all into the same readings. -/
def readAllInto {α : Type} [Amount α] (b : Backend σ) (photo : RgbaImage) (offset : Offset) :
    List TextRecognizer → Readings α → StateM σ (Except MeterError (Readings α))
  | [], reads => return .ok reads
  | r :: more, reads => do
    match ← r.readInto b photo offset none reads with
    | (.ok _, reads) => readAllInto b photo offset more reads
    | (.error e, reads) =>
      if e.isFatal then return .error e else readAllInto b photo offset more reads

/-- It makes no difference whether readings are kept along the way or made of everything seen. -/
theorem readAllInto_eq {α : Type} [Amount α] (b : Backend σ) (photo : RgbaImage)
    (offset : Offset) (recognizers : List Recognizer) (reads : Readings α) (s : σ) :
    readAllInto b photo offset (recognizers.filterMap Recognizer.text?) reads s =
      ((sightAll b photo offset recognizers none s).1.map fun seen =>
          reads.noteAll seen.observations,
        (sightAll b photo offset recognizers none s).2) := by
  induction recognizers generalizing reads s with
  | nil => rfl
  | cons r more ih =>
    cases r with
    | needle regions =>
      rw [sightAll_needle]
      exact ih reads s
    | text r =>
      have shape : (Recognizer.text r :: more).filterMap Recognizer.text? =
          r :: more.filterMap Recognizer.text? := rfl
      rw [shape]
      rcases h : r.sight b photo offset none s with ⟨cause | first, t⟩
      · by_cases fatal : cause.isFatal = true
        · simp [readAllInto, TextRecognizer.readInto, sightAll, Recognizer.sight,
            stateM_bind_apply, stateM_pure_apply, h, fatal, Except.map]
        · simp [readAllInto, TextRecognizer.readInto, sightAll, Recognizer.sight,
            stateM_bind_apply, stateM_pure_apply, h, fatal, ih]
      · have unframed : first.frames = none := TextRecognizer.frames_of_sight_none h
        simp only [readAllInto, TextRecognizer.readInto, sightAll, Recognizer.sight,
          stateM_bind_apply, stateM_pure_apply, h, unframed, ih]
        rcases sightAll b photo offset more none t with ⟨cause | rest, u⟩
        · rfl
        · simp [stateM_pure_apply, Except.map, Readings.noteAll, List.foldl_append]

/-- The recognizers that read characters. -/
def textRecognizers (m : Meter) : List TextRecognizer := m.recognizers.filterMap Recognizer.text?

/-- The photo as recognizers see it. -/
def upright (m : Meter) (photo : RgbaImage) : RgbaImage := photo.rotate m.rotation

/-- The drift of a photo. -/
def offset (m : Meter) (photo : RgbaImage) : Offset := (m.drift (m.upright photo) none).1

/-- The frames that show the drift of a photo. -/
def driftFrames (m : Meter) (photo : RgbaImage) : List Frame :=
  (m.window.elim [] fun w => w.edgeFrames (m.upright photo)) ++
    [⟨"source", m.upright photo, windowMarks m.window (m.upright photo) (m.offset photo)⟩]

/-- Frames or not, the drift is the same, and the same frames are put behind those there are. -/
theorem drift_upright (m : Meter) (photo : RgbaImage) (held : Option (List Frame)) :
    m.drift (m.upright photo) held = (m.offset photo, held.map (· ++ m.driftFrames photo)) := by
  unfold offset driftFrames drift offset drift
  cases m.window with
  | none => simp
  | some w =>
    simp only [Option.elim_some]
    rw [w.detect_mk _ held]
    simp [Function.comp_def]

/-- What a cycle with these sessions gives. -/
def cycleOf {α : Type} [Amount α] [ImageLibrary] (m : Meter) (files : Files) (limit : Nat)
    (time : Timestamp) (photo : RgbaImage) (sessions : List Session) : Cycle α :=
  match sessions.findSome? Session.halt? with
  | some cause => ⟨.error cause, some files⟩
  | none =>
    ⟨.ok ((Readings.empty.noteAll (sessions.flatMap Session.observations)).emit limit time),
      if m.debug then
        m.keepFrames files (m.driftFrames photo ++
          sessions.flatMap (Session.frames (m.upright photo) (m.offset photo)))
      else some files⟩

/-- What a cycle gives is told by what its recognizers saw. -/
theorem read_of_sightAll {α : Type} [Amount α] [ImageLibrary] {b : Backend σ} {m : Meter}
    {files : Files} {limit : Nat} {time : Timestamp} {photo : RgbaImage} (room : limit ≠ 0)
    (readable : files.picture? m.file = some photo) {sessions : List Session} {s t : σ}
    (run : ∀ held, sightAll b (m.upright photo) (m.offset photo) m.recognizers held s =
      (Session.conclude (m.upright photo) (m.offset photo) held sessions, t)) :
    m.read (α := α) b files limit time s = (m.cycleOf files limit time photo sessions, t) := by
  have observed : m.observe b photo s =
      (Session.conclude (m.upright photo) (m.offset photo)
        ((if m.debug then some [] else none).map (· ++ m.driftFrames photo)) sessions, t) := by
    have drift := m.drift_upright photo (if m.debug then some [] else none)
    unfold upright at drift
    simp only [observe, drift]
    exact run _
  simp only [read, room, readable, stateM_bind_apply, observed, ↓reduceIte]
  cases h : sessions.findSome? Session.halt? <;> cases debug : m.debug <;>
    simp [Session.conclude, cycleOf, h, debug, stateM_pure_apply]

/-- A cycle with a readable photo is a tour of the recognizers that read characters. -/
theorem read_traced {α : Type} [Amount α] [ImageLibrary] (b : Backend σ) (m : Meter)
    (files : Files) {limit : Nat} (time : Timestamp) {photo : RgbaImage} (room : limit ≠ 0)
    (readable : files.picture? m.file = some photo) (s : σ) (events : List EngineEvent) :
    ∃ (sessions : List Session) (t : σ),
      Tour (m.upright photo) (m.offset photo) m.textRecognizers sessions ∧
      m.read (α := α) b files limit time s = (m.cycleOf files limit time photo sessions, t) ∧
      m.read (α := α) b.traced files limit time (s, events) =
        (m.cycleOf files limit time photo sessions, t,
          events ++ sessions.flatMap (Session.events (m.upright photo) (m.offset photo))) := by
  obtain ⟨sessions, t, tour, run⟩ :=
    sightAll_traced b (m.upright photo) (m.offset photo) m.recognizers s events
  exact ⟨sessions, t, tour, read_of_sightAll room readable fun held => (run held).1,
    read_of_sightAll room readable fun held => (run held).2⟩

/-- Without room for a reading or without a readable photo no engine is asked for anything. -/
theorem read_eq_of_nothing_to_read {α : Type} [Amount α] [ImageLibrary] (b : Backend σ)
    (m : Meter) (files : Files) {limit : Nat} (time : Timestamp)
    (h : limit = 0 ∨ files.picture? m.file = none) (s : σ) :
    m.read (α := α) b files limit time s = (⟨.ok [], some files⟩, s) := by
  rcases h with rfl | unreadable
  · rfl
  · by_cases room : limit = 0 <;> simp [read, room, unreadable, stateM_pure_apply]

end Meter

/-! ## A photo that has drifted -/

namespace Sample

/-- Black before a position, white behind it. -/
def ramp (position v : Nat) : UInt8 := if v < position then 0 else if v = position then 128 else 255

/-- A corner between black and white, right of the middle and above it. -/
def photo : RgbaImage := Image.ofFn 6 5 fun x y => Rgba.gray (min (ramp 3 x) (ramp 1 y))

def files : Files := ⟨[], [(["m.bmp"], .file (Bmp.encode photo))]⟩

theorem picture?_files : files.picture? "m.bmp" = some photo := by decide +kernel

/-- Looks for the corner in the middle of the photo. -/
def meter (languages : List String) : Meter where
  file := "m.bmp"
  rotation := 0.0
  debug := false
  window := DriftWindow.new? 2 2 2
  recognizers := languages.map fun language => .text (blocks language)

/-- The identifiers and values of the readings of a cycle. -/
def shown (c : Meter.Cycle Float) : Option (List (String × Float)) :=
  match c.readings with
  | .ok readings => some (readings.map fun r => (r.identifier, r.value))
  | .error _ => none

end Sample
end MeterSight
