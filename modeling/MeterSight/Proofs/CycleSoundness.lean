import MeterSight.Proofs.Emission
import MeterSight.Proofs.Refusal

/-!
# Soundness of a cycle

A value that a cycle gives is the sum over all regions with its identifier, in whichever recognizers
they are, and each of them was really read: the engine took the image and found a word with enough
confidence at a place with pixels. One region for which that fails keeps the value back.
-/
namespace MeterSight

/-- The regions with an identifier, in the order in which they are looked at. -/
def regionsOf (identifier : String) (recognizers : List TextRecognizer) : List Region :=
  (recognizers.flatMap TextRecognizer.regions).filter (·.identifier = identifier)

namespace Session

/-- The regions that were looked for. -/
def searches (s : Session) : List Search :=
  match s.course with
  | .searched searches => searches
  | _ => []

end Session

/-- The searches for the regions with an identifier. -/
def searchesOf (identifier : String) (sessions : List Session) : List Search :=
  (sessions.flatMap Session.searches).filter (·.region.identifier = identifier)

/-- The regions with an identifier, each with the first word of enough confidence. -/
def firstWords (identifier : String) (sessions : List Session) : List (Region × Word) :=
  (searchesOf identifier sessions).filterMap fun s => (acceptedWord s.words).map (s.region, ·)

/-- What a block stands for: all regions with its identifier, each of them really read. -/
structure Block.Sound {α : Type} [Amount α] (block : Block α) (recognizers : List TextRecognizer)
    (sessions : List Session) : Prop where
  declared : regionsOf block.identifier recognizers ≠ []
  /-- Every engine concerned took the image. -/
  shown : ∀ session ∈ sessions,
    (∃ region ∈ session.recognizer.regions, region.identifier = block.identifier) →
      ∃ searches, session.course = .searched searches
  /-- Every region lay on pixels, and its engine found a word with enough confidence. The first one
  is accepted. -/
  found : ∀ search ∈ searchesOf block.identifier sessions, ¬ search.rect.IsEmpty ∧
    ∃ before word after, search.answer = some (.ok (before ++ word :: after)) ∧
      15.0 < word.confidence ∧ (∀ w ∈ before, ¬ 15.0 < w.confidence) ∧
      acceptedWord search.words = some word
  /-- No region is missing among the first words, and their order is that of the regions. -/
  covered : (firstWords block.identifier sessions).map Prod.fst =
    regionsOf block.identifier recognizers
  value_eq : block.value = Tally.sum Amount.zero (firstWords block.identifier sessions)
  confidence_eq : ∀ c ∈ block.confidence,
    let confidences := (firstWords block.identifier sessions).map (·.2.confidence)
    ((regionsOf block.identifier recognizers).filterMap Region.confidenceId).getLast? = some c.1 ∧
      c.2 = Amount.ofConfidence (leastConfidence confidences) ∧
      wordThreshold < leastConfidence confidences ∧
      ((∀ x ∈ confidences, x.isFinite = true) → leastConfidence confidences ∈ confidences ∧
        ∀ x ∈ confidences, leastConfidence confidences ≤ x)

theorem Search.answer_of_acceptedWord {s : Search} {word : Word}
    (h : acceptedWord s.words = some word) :
    ∃ before after, s.answer = some (.ok (before ++ word :: after)) ∧
      wordThreshold < word.confidence ∧ ∀ w ∈ before, ¬ wordThreshold < w.confidence := by
  obtain ⟨above, before, after, found, below⟩ := acceptedWord_eq_some_iff.1 h
  unfold Search.words at found
  split at found
  · next words answered => exact ⟨before, after, found ▸ answered, above, below⟩
  · simp at found

namespace Session
variable {photo : RgbaImage} {offset : Offset}

theorem map_region_observations {s : Session} (orderly : s.Orderly photo offset)
    (had : s.hasEngine = true) : s.observations.map Observation.region = s.recognizer.regions := by
  rcases s with ⟨r, cause | cause | searches⟩
  · simp [hasEngine] at had
  · simp [observations, Function.comp_def]
  · have regions := Search.map_region_of_forall₂ orderly
    simpa [observations, Function.comp_def, Search.glimpse, Glimpse.observation] using regions

theorem contributionsTo_observations (identifier : String) (s : Session) :
    contributionsTo identifier s.observations =
      (s.searches.filter (·.region.identifier = identifier)).filterMap
        fun search => (acceptedWord search.words).map (search.region, ·) := by
  rcases s with ⟨r, cause | cause | searches⟩
  · rfl
  · simp [contributionsTo, observationsOf, observations, Session.searches, List.filter_map]
  · simp [contributionsTo, observationsOf, observations, Session.searches, List.filter_map,
      Function.comp_def, Search.glimpse, Glimpse.observation]

theorem contributionsTo_flatMap_observations (identifier : String) (sessions : List Session) :
    contributionsTo identifier (sessions.flatMap observations) =
      firstWords identifier sessions := by
  induction sessions with
  | nil => rfl
  | cons s more ih =>
    have first := contributionsTo_observations identifier s
    unfold contributionsTo observationsOf firstWords searchesOf at *
    simp [first, ih]

theorem map_region_flatMap_observations {sessions : List Session}
    (orderly : ∀ s ∈ sessions, s.Orderly photo offset) (had : ∀ s ∈ sessions, s.hasEngine = true) :
    (sessions.flatMap observations).map Observation.region =
      (sessions.map recognizer).flatMap TextRecognizer.regions := by
  rw [List.map_flatMap, List.flatMap_map]
  exact List.flatMap_congr fun s mem => map_region_observations (orderly s mem) (had s mem)

theorem map_region_observationsOf (identifier : String) {sessions : List Session}
    (orderly : ∀ s ∈ sessions, s.Orderly photo offset) (had : ∀ s ∈ sessions, s.hasEngine = true) :
    (observationsOf identifier (sessions.flatMap observations)).map Observation.region =
      regionsOf identifier (sessions.map recognizer) := by
  rw [regionsOf, ← map_region_flatMap_observations orderly had, observationsOf, List.filter_map]
  rfl

/-- An engine that does not take the image spoils all its regions. -/
theorem searched_of_seen {identifier : String} {sessions : List Session}
    (had : ∀ s ∈ sessions, s.hasEngine = true)
    (seen : ∀ o ∈ observationsOf identifier (sessions.flatMap observations), o.word.isSome = true)
    {s : Session} (mem : s ∈ sessions) {region : Region} (own : region ∈ s.recognizer.regions)
    (named : region.identifier = identifier) : ∃ searches, s.course = .searched searches := by
  cases h : s.course with
  | refused cause => simpa [hasEngine, h] using had s mem
  | blind cause =>
    have blank : (⟨region, none⟩ : Observation) ∈ s.observations := by
      simp [observations, h, own]
    have spoiled := seen ⟨region, none⟩
      (List.mem_filter.2 ⟨List.mem_flatMap.2 ⟨s, mem, blank⟩, by simpa using named⟩)
    contradiction
  | searched searches => exact ⟨searches, rfl⟩

/-- Only an engine that was asked and answered finds words. -/
theorem answered_of_seen {identifier : String} {sessions : List Session}
    (orderly : ∀ s ∈ sessions, s.Orderly photo offset)
    (seen : ∀ o ∈ observationsOf identifier (sessions.flatMap observations), o.word.isSome = true)
    {search : Search} (mem : search ∈ searchesOf identifier sessions) :
    ¬ search.rect.IsEmpty ∧
      ∃ before word after, search.answer = some (.ok (before ++ word :: after)) ∧
        wordThreshold < word.confidence ∧ (∀ w ∈ before, ¬ wordThreshold < w.confidence) ∧
        acceptedWord search.words = some word := by
  obtain ⟨inside, named⟩ := List.mem_filter.1 mem
  obtain ⟨s, sMem, searched⟩ := List.mem_flatMap.1 inside
  obtain ⟨r, cause | cause | searches⟩ := s
  · simp [Session.searches] at searched
  · simp [Session.searches] at searched
  · have noted : search.glimpse.observation ∈
        observationsOf identifier (sessions.flatMap observations) := by
      refine List.mem_filter.2 ⟨List.mem_flatMap.2 ⟨_, sMem, ?_⟩, named⟩
      exact List.mem_map.2 ⟨search, searched, rfl⟩
    obtain ⟨word, accepted⟩ := Option.isSome_iff_exists.1 (seen _ noted)
    obtain ⟨before, after, answered, first⟩ := Search.answer_of_acceptedWord accepted
    have asked := Search.asked_iff_of_forall₂ (orderly _ sMem) search searched
    exact ⟨asked.1 (by simp [answered]), before, word, after, answered, first.1, first.2, accepted⟩

theorem threshold_lt_of_mem_firstWords {identifier : String} {sessions : List Session}
    {c : Region × Word} (mem : c ∈ firstWords identifier sessions) :
    wordThreshold < c.2.confidence := by
  obtain ⟨search, -, found⟩ := List.mem_filterMap.1 mem
  obtain ⟨word, accepted, rfl⟩ := Option.map_eq_some_iff.1 found
  exact (acceptedWord_eq_some_iff.1 accepted).1

theorem threshold_lt_topConfidence : wordThreshold < topConfidence := by decide +kernel

/-- A block that tells a readable tally is sound. -/
theorem sound_of_tells {α : Type} [Amount α] [LawfulAmount α] {sessions : List Session}
    (orderly : ∀ s ∈ sessions, s.Orderly photo offset) (had : ∀ s ∈ sessions, s.hasEngine = true)
    {block : Block α} {t : Tally α} (told : block.Tells t)
    (noted : (Readings.empty.noteAll (sessions.flatMap observations)).get? block.identifier =
      some t) : block.Sound (sessions.map recognizer) sessions := by
  obtain ⟨some, seen, value, name, least⟩ := Readings.tally_of_readable noted told.readable
  have regions := map_region_observationsOf block.identifier orderly had
  have contributions := contributionsTo_flatMap_observations block.identifier sessions
  have covered : (firstWords block.identifier sessions).map Prod.fst =
      regionsOf block.identifier (sessions.map recognizer) := by
    rw [← contributions, map_fst_contributionsTo seen, regions]
  have declared : regionsOf block.identifier (sessions.map recognizer) ≠ [] := by
    rw [← regions]
    simpa using some
  refine ⟨declared, ?_, ?_, covered, ?_, ?_⟩
  · rintro session mem ⟨region, own, named⟩
    exact searched_of_seen had seen mem own named
  · intro search mem
    exact answered_of_seen orderly seen mem
  · rw [told.value_eq, value, contributions]
  · intro c asked confidences
    obtain ⟨named, amount⟩ := told.confidence_eq c asked
    rw [contributions] at least
    have ne : confidences ≠ [] := by
      intro none
      have nothing : firstWords block.identifier sessions = [] := by simpa [confidences] using none
      rw [nothing] at covered
      exact declared covered.symm
    refine ⟨?_, by rw [amount, least], ?_, ?_⟩
    · rw [← regions, List.filterMap_map, ← named, name]
      rfl
    · refine lt_leastConfidence threshold_lt_topConfidence fun x mem => ?_
      obtain ⟨c, inside, rfl⟩ := List.mem_map.1 mem
      exact threshold_lt_of_mem_firstWords inside
    · intro finite
      exact ⟨leastConfidence_mem finite ne, leastConfidence_le finite⟩

end Session

namespace Meter
variable {σ α : Type} [Amount α] [LawfulAmount α]

/-- If all engines can be had, a cycle gives readings, and every value among them with the
confidence after it is sound. -/
theorem read_sound [ImageLibrary] (b : Backend σ) (m : Meter) (files : Files) {limit : Nat} (time : Timestamp)
    {photo : RgbaImage} (room : limit ≠ 0) (readable : files.picture? m.file = some photo) (s : σ)
    (created : ∀ settings cause, .create settings (.error cause) ∉
      (m.read (α := α) b.traced files limit time (s, [])).2.2) :
    let run : Cycle α × σ × List EngineEvent := m.read b.traced files limit time (s, [])
    ∃ (sessions : List Session) (blocks : List (Block α)),
      sessions.map Session.recognizer = m.textRecognizers ∧
      (∀ session ∈ sessions, session.Orderly (m.upright photo) (m.offset photo)) ∧
      run.2.2 = sessions.flatMap (Session.events (m.upright photo) (m.offset photo)) ∧
      run.1.readings = .ok (blocks.flatMap (Block.readings time)) ∧
      (blocks.map Block.identifier).Pairwise (· < ·) ∧
      ∀ block ∈ blocks, block.Sound m.textRecognizers sessions := by
  obtain ⟨sessions, t, tour, -, run⟩ := m.read_traced (α := α) b files time room readable s []
  simp only [run, List.nil_append] at created ⊢
  have had : ∀ session ∈ sessions, session.hasEngine = true := by
    intro session mem
    have none : ∀ settings cause, .create settings (.error cause) ∉
        session.events (m.upright photo) (m.offset photo) := fun settings cause inside =>
      created settings cause (List.mem_flatMap.2 ⟨session, mem, inside⟩)
    exact Session.hasEngine_of_not_mem none
  have open' : sessions.findSome? Session.halt? = none :=
    Session.findSome?_halt?_eq_none fun settings cause inside =>
      absurd inside (created settings cause)
  obtain ⟨blocks, eq, ascending, tells⟩ :=
    (Readings.empty.noteAll (α := α) (sessions.flatMap Session.observations)).emitted_emit limit
      time
  refine ⟨sessions, blocks, tour.map_recognizer open', tour.orderly, rfl, ?_, ascending, ?_⟩
  · simp [cycleOf, open', eq]
  · intro block mem
    obtain ⟨t, noted, told⟩ := tells block mem
    rw [← tour.map_recognizer open']
    exact Session.sound_of_tells tour.orderly had told noted

/-- Two recognizers share an identifier, and all regions of both read a seven. -/
theorem read_sound_seven :
    let m := Sample.meter ["eng", "eng"]
    let run : Cycle Float × Unit × List EngineEvent :=
      m.read (Sample.backend "eng" [Sample.seven]).traced Sample.files 10 ⟨0, 0⟩ ((), [])
    Sample.shown run.1 = some [("id1", 154.0), ("conf1", 90.0)] ∧
      ∃ (sessions : List Session) (blocks : List (Block Float)),
        run.1.readings = .ok (blocks.flatMap (Block.readings ⟨0, 0⟩)) ∧
        ∀ block ∈ blocks, block.Sound m.textRecognizers sessions := by
  intro m run
  have unrefused : run.2.2.all (·.refusal?.isNone) = true := by decide +kernel
  have created : ∀ settings cause, .create settings (.error cause) ∉ run.2.2 := by
    intro settings cause inside
    have none := List.all_eq_true.1 unrefused _ inside
    contradiction
  obtain ⟨sessions, blocks, -, -, -, given, -, sound⟩ :=
    read_sound (Sample.backend "eng" [Sample.seven]) m Sample.files ⟨0, 0⟩ (by decide)
      Sample.picture?_files () created
  exact ⟨by decide +kernel, sessions, blocks, given, sound⟩

end Meter
end MeterSight
