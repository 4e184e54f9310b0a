import MeterSight.Proofs.StageFrames
import MeterSight.Recognizer

/-!
# Sessions with engines

What passes between a recognizer and its engine in one cycle, as data: whether there was an engine,
whether it took the image, and for each region what it was asked and what it answered. Whatever an
engine does, reading a photo is such a session: just its events are written down, in its order, and
the recognizer sees what the session tells.
-/
namespace MeterSight

theorem stateM_bind_apply {σ α β : Type} (x : StateM σ α) (f : α → StateM σ β) (s : σ) :
    (x >>= f) s = f (x s).1 (x s).2 := rfl

theorem stateM_map_apply {σ α β : Type} (f : α → β) (x : StateM σ α) (s : σ) :
    (f <$> x) s = (f (x s).1, (x s).2) := rfl

theorem stateM_pure_apply {σ α : Type} (a : α) (s : σ) : (pure a : StateM σ α) s = (a, s) := rfl

/-- What became of one region. It has an answer if the engine was asked. -/
structure Search where
  region : Region
  rect : Rect
  answer : Option (Except MeterError (List Word))

namespace Search

/-- The words that were found. -/
def words (s : Search) : List Word :=
  match s.answer with
  | some (.ok words) => words
  | _ => []

def glimpse (s : Search) : Glimpse := ⟨s.region, s.rect, s.words⟩

/-- The rectangle comes right before the question. -/
def events (s : Search) : List EngineEvent :=
  match s.answer with
  | some answer => [.rectangle s.rect, .recognize answer]
  | none => []

/-- A region was looked for at a place, and the engine was asked if that has pixels. -/
structure IsAt (s : Search) (region : Region) (place : Rect) : Prop where
  region_eq : s.region = region
  rect_eq : s.rect = place
  asked_iff : s.answer.isSome ↔ ¬ place.IsEmpty

theorem map_region_of_forall₂ {place : Region → Rect} {regions : List Region}
    {searches : List Search}
    (h : List.Forall₂ (fun region search => search.IsAt region (place region)) regions searches) :
    searches.map region = regions := by
  induction h with
  | nil => rfl
  | cons isAt _ ih => rw [List.map_cons, ih, isAt.region_eq]

theorem exists_isAt_of_forall₂ {place : Region → Rect} {regions : List Region}
    {searches : List Search}
    (h : List.Forall₂ (fun region search => search.IsAt region (place region)) regions searches) :
    ∀ s ∈ searches, ∃ region ∈ regions, s.IsAt region (place region) := by
  induction h with
  | nil => simp
  | cons isAt _ ih =>
    rw [List.forall_mem_cons]
    refine ⟨⟨_, List.mem_cons_self, isAt⟩, fun s mem => ?_⟩
    obtain ⟨region, inside, found⟩ := ih s mem
    exact ⟨region, List.mem_cons_of_mem _ inside, found⟩

theorem asked_iff_of_forall₂ {place : Region → Rect} {regions : List Region}
    {searches : List Search}
    (h : List.Forall₂ (fun region search => search.IsAt region (place region)) regions searches) :
    ∀ s ∈ searches, s.answer.isSome ↔ ¬ s.rect.IsEmpty := by
  intro s mem
  obtain ⟨region, -, isAt⟩ := exists_isAt_of_forall₂ h s mem
  exact isAt.rect_eq ▸ isAt.asked_iff

/-- It can be told from the events where the searches for some regions end, and what they found. -/
theorem flatMap_events_append_inj {place : Region → Rect} {regions : List Region}
    {searches searches' : List Search}
    (h : List.Forall₂ (fun region search => search.IsAt region (place region)) regions searches)
    (h' : List.Forall₂ (fun region search => search.IsAt region (place region)) regions searches')
    {more more' : List EngineEvent}
    (eq : searches.flatMap events ++ more = searches'.flatMap events ++ more') :
    searches = searches' ∧ more = more' := by
  induction h generalizing searches' with
  | nil =>
    cases h'
    exact ⟨rfl, eq⟩
  | @cons region search regions searches isAt _ ih =>
    obtain ⟨search', searches', isAt', rest', rfl⟩ := List.forall₂_cons_left_iff.1 h'
    have region_eq := isAt.region_eq.trans isAt'.region_eq.symm
    have rect_eq := isAt.rect_eq.trans isAt'.rect_eq.symm
    have asked_iff := isAt.asked_iff.trans isAt'.asked_iff.symm
    rcases search with ⟨_, _, _ | answer⟩ <;> rcases search' with ⟨_, _, _ | answer'⟩ <;>
      obtain rfl := region_eq <;> obtain rfl := rect_eq
    · obtain ⟨rfl, rest⟩ := ih rest' (by simpa [events] using eq)
      exact ⟨rfl, rest⟩
    · simp at asked_iff
    · simp at asked_iff
    · simp only [events, List.flatMap_cons, List.cons_append, List.nil_append, List.cons.injEq,
        EngineEvent.recognize.injEq, true_and] at eq
      obtain ⟨rfl, eq⟩ := eq
      obtain ⟨rfl, rest⟩ := ih rest' eq
      exact ⟨rfl, rest⟩

end Search

/-- How far a recognizer gets with its engine. -/
inductive Course where
  /-- There is no engine. -/
  | refused (cause : MeterError)
  /-- The engine does not take the image. -/
  | blind (cause : MeterError)
  | searched (searches : List Search)

/-- The time of a recognizer with its engine. -/
structure Session where
  recognizer : TextRecognizer
  course : Course

namespace TextRecognizer
variable {σ α : Type}

/-- The cleaned part of the photo that the engine is shown. -/
def paper (r : TextRecognizer) (photo : RgbaImage) (offset : Offset) : GrayImage :=
  cleanImage r.curve (r.part? offset photo) photo

/-- The pictures made on the way to the paper. -/
def stages (r : TextRecognizer) (photo : RgbaImage) (offset : Offset) : List Frame :=
  cleanFrames r.curve (r.part? offset photo) photo

/-- Where a region lies on the paper. -/
def place (r : TextRecognizer) (photo : RgbaImage) (offset : Offset) (region : Region) : Rect :=
  searchRect (r.part? offset photo) offset (r.paper photo offset) region

/-- Reads the regions of a photo into readings. Tells whether every region could be read; without
an engine the readings stay. -/
def readInto [Amount α] (b : Backend σ) (r : TextRecognizer) (photo : RgbaImage) (offset : Offset)
    (held : Option (List Frame)) (reads : Readings α) :
    StateM σ (Except MeterError Bool × Readings α) := do
  match ← r.sight b photo offset held with
  | .ok s => return (.ok s.complete, reads.noteAll s.observations)
  | .error e => return (.error e, reads)

end TextRecognizer

namespace Session
variable (photo : RgbaImage) (offset : Offset)

/-- The searches of a session belong to the regions of the recognizer, in order. -/
def Orderly (s : Session) : Prop :=
  match s.course with
  | .searched searches => List.Forall₂
      (fun region search => search.IsAt region (s.recognizer.place photo offset region))
      s.recognizer.regions searches
  | _ => True

/-- Everything asked in a session. An engine that was had is let go at the end. -/
def events (s : Session) : List EngineEvent :=
  match s.course with
  | .refused cause => [.create s.recognizer.settings (.error cause)]
  | .blind cause =>
    [.create s.recognizer.settings (.ok ()),
      .image (s.recognizer.paper photo offset) (.error cause), .release]
  | .searched searches =>
    .create s.recognizer.settings (.ok ()) :: .image (s.recognizer.paper photo offset) (.ok ()) ::
      (searches.flatMap Search.events ++ [.release])

/-- What is seen in a session. Without an engine that is nothing at all, not even that the regions
cannot be read. -/
def observations (s : Session) : List Observation :=
  match s.course with
  | .refused _ => []
  | .blind _ => s.recognizer.regions.map (⟨·, none⟩)
  | .searched searches => searches.map fun search => search.glimpse.observation

/-- The pictures of a session, which are put behind those so far where frames are collected. -/
def frames (s : Session) : List Frame :=
  match s.course with
  | .refused _ => []
  | .blind _ => s.recognizer.stages photo offset
  | .searched searches => s.recognizer.stages photo offset ++
    [Glimpse.frame (s.recognizer.paper photo offset) (searches.map Search.glimpse)]

/-- What the recognizer makes of a session, with the frames so far. -/
def outcome (held : Option (List Frame)) (s : Session) : Except MeterError Sighting :=
  match s.course with
  | .refused cause => .error cause
  | _ => .ok ⟨s.observations, held.map (· ++ s.frames photo offset)⟩

end Session

namespace TextRecognizer
variable {σ : Type}

theorem look_traced (b : Backend σ) (rect : Rect) (region : Region) (s : σ)
    (events : List EngineEvent) :
    ∃ (search : Search) (t : σ), search.IsAt region rect ∧
      look b rect region s = (search.glimpse, t) ∧
      look b.traced rect region (s, events) = (search.glimpse, t, events ++ search.events) := by
  by_cases empty : rect.IsEmpty
  · refine ⟨⟨region, rect, none⟩, s, ⟨rfl, rfl, by simp [empty]⟩, ?_, ?_⟩ <;>
      simp [look, empty, Search.glimpse, Search.words, Search.events, stateM_pure_apply]
  · rcases h : b.recognize (b.setRectangle rect s).2 with ⟨answer, t⟩
    refine ⟨⟨region, rect, some answer⟩, t, ⟨rfl, rfl, by simp [empty]⟩, ?_, ?_⟩ <;>
      cases answer <;>
      simp [look, empty, Search.glimpse, Search.words, Search.events, stateM_bind_apply,
        stateM_pure_apply, Backend.traced, h]

theorem lookAll_traced (b : Backend σ) (place : Region → Rect) (regions : List Region) (s : σ)
    (events : List EngineEvent) :
    ∃ (searches : List Search) (t : σ),
      List.Forall₂ (fun region search => search.IsAt region (place region)) regions searches ∧
      lookAll b place regions s = (searches.map Search.glimpse, t) ∧
      lookAll b.traced place regions (s, events) =
        (searches.map Search.glimpse, t, events ++ searches.flatMap Search.events) := by
  induction regions generalizing s events with
  | nil => exact ⟨[], s, .nil, rfl, by simp [lookAll, stateM_pure_apply]⟩
  | cons region more ih =>
    obtain ⟨search, t, isAt, first, firstTraced⟩ := look_traced b (place region) region s events
    obtain ⟨searches, u, isAt', rest, restTraced⟩ := ih t (events ++ search.events)
    refine ⟨search :: searches, u, .cons isAt isAt', ?_, ?_⟩
    · simp [lookAll, stateM_bind_apply, stateM_map_apply, first, rest]
    · simp [lookAll, stateM_bind_apply, stateM_map_apply, firstTraced, restTraced]

theorem search_eq (b : Backend σ) (r : TextRecognizer) (photo : RgbaImage) (offset : Offset)
    (held : Option (List Frame)) :
    search b r photo offset held = do
      match ← b.setImage (r.paper photo offset) with
      | .error _ => return .blind r.regions (held.map (· ++ r.stages photo offset))
      | .ok () =>
        let glimpses ← lookAll b (r.place photo offset) r.regions
        return ⟨glimpses.map Glimpse.observation, held.map (· ++ (r.stages photo offset ++
          [Glimpse.frame (r.paper photo offset) glimpses]))⟩ := by
  simp only [search, clean_mk, Passage.note, Option.map_map, Function.comp_def, List.append_assoc]
  rfl

/-- Reading a photo is a session, whatever the engine does. The session is the same whether or not
frames are collected. -/
theorem sight_traced (b : Backend σ) (r : TextRecognizer) (photo : RgbaImage) (offset : Offset)
    (s : σ) (events : List EngineEvent) :
    ∃ (session : Session) (t : σ), session.recognizer = r ∧ session.Orderly photo offset ∧
      ∀ held,
        r.sight b photo offset held s = (session.outcome photo offset held, t) ∧
        r.sight b.traced photo offset held (s, events) =
          (session.outcome photo offset held, t, events ++ session.events photo offset) := by
  rcases hc : b.create r.settings s with ⟨_ | ⟨⟨⟩⟩, t⟩
  case error cause =>
    refine ⟨⟨r, .refused cause⟩, t, rfl, trivial, fun held => ⟨?_, ?_⟩⟩ <;>
      simp [sight, stateM_bind_apply, stateM_pure_apply, Backend.traced, hc, Session.outcome,
        Session.events]
  case ok =>
    rcases ht : b.setImage (r.paper photo offset) t with ⟨_ | ⟨⟨⟩⟩, u⟩
    case error cause =>
      refine ⟨⟨r, .blind cause⟩, (b.release u).2, rfl, trivial, fun held => ⟨?_, ?_⟩⟩ <;>
        simp [sight, search_eq, stateM_bind_apply, stateM_map_apply, stateM_pure_apply,
          Backend.traced, hc, ht, Session.outcome, Session.events, Session.observations,
          Session.frames, Sighting.blind]
    case ok =>
      obtain ⟨searches, v, isAt, run, runTraced⟩ :=
        lookAll_traced b (r.place photo offset) r.regions u
          (events ++ [.create r.settings (.ok ()), .image (r.paper photo offset) (.ok ())])
      refine ⟨⟨r, .searched searches⟩, (b.release v).2, rfl, isAt, fun held => ⟨?_, ?_⟩⟩
      · simp [sight, search_eq, stateM_bind_apply, stateM_map_apply, hc, ht, run, Session.outcome,
          Session.observations, Session.frames, Function.comp_def]
      · simp only [Backend.traced] at runTraced
        simp [sight, search_eq, stateM_bind_apply, stateM_map_apply, Backend.traced, hc, ht,
          runTraced, Session.outcome, Session.events, Session.observations, Session.frames,
          Function.comp_def]

end TextRecognizer

/-! ## Engines that always see the same -/

namespace Sample

/-- The right one of two blocks side by side, with a name for the confidence. -/
def region : Region where
  identifier := "id1"
  confidenceId := some "conf1"
  scaler := 0
  digit := true
  bounds := ⟨⟨some 2, some 4⟩, ⟨some 2, some 5⟩⟩
  identifier_ne_empty := by decide
  confidenceId_ne_empty := by decide
  ordered_horizontal := by simp [Span.Ordered]
  ordered_vertical := by simp [Span.Ordered]

/-- The left one, which counts tens. -/
def tens : Region :=
  { region with
    scaler := 1
    bounds := ⟨⟨some 0, some 2⟩, ⟨some 2, some 5⟩⟩
    ordered_horizontal := by simp [Span.Ordered]
    ordered_vertical := by simp [Span.Ordered] }

def recognizer (region : Region) (language : String) : TextRecognizer where
  regions := [region]
  curve := .standard
  settings := ⟨language, meterCharacters, .singleBlock, defaultExecutable, none⟩
  regions_ne_nil := by simp

/-- A recognizer of both blocks. -/
def blocks (language : String) : TextRecognizer :=
  { recognizer region language with regions := [tens, region], regions_ne_nil := by simp }

/-- Engines for one language only. -/
def backend (language : String) (words : List Word) : Backend Unit where
  create settings := return if settings.language = language then .ok () else .error (.io .missing)
  setImage _ := return .ok ()
  setRectangle _ := return
  recognize := return .ok words
  release := return

/-- A word that says seven. -/
def seven : Word := ⟨"7", 90.0, ⟨0, 0, 1, 1⟩⟩

end Sample
end MeterSight
