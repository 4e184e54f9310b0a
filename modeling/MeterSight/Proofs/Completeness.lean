import MeterSight.Proofs.CycleSoundness
import MeterSight.Proofs.DoubleSign

/-!
# Completeness of a cycle

If every engine does what it is asked and finds a word in each region, all recognizers have read all
of their regions, and with enough room a cycle gives each identifier once. What can still be lost is
an identifier with a sum that is no number: a zero scaled by more than doubles can hold makes one.
As long as factors stay within the range of doubles and no word has a minus sign, nothing is lost.
-/
namespace MeterSight

/-- An engine was had, took its image, and found a word with enough confidence. -/
def EngineEvent.Served : EngineEvent → Prop
  | .create _ answer | .image _ answer => answer.isOk = true
  | .recognize answer => answer.toOption.any (·.any (wordThreshold < ·.confidence)) = true
  | .rectangle _ | .release => True

instance : (e : EngineEvent) → Decidable e.Served
  | .create _ _ | .image _ _ | .recognize _ => inferInstanceAs (Decidable (_ = true))
  | .rectangle _ | .release => isTrue trivial

/-- A word without a minus sign, scaled by a factor within the range of doubles. -/
structure Moderate (c : Region × Word) : Prop where
  unsigned : (leadingNumber c.2.text.toList).negative = false
  factor_pos : 0.0 < tenToFloat c.1.scaler
  factor_isFinite : (tenToFloat c.1.scaler).isFinite = true

theorem Moderate.sign?_valueOf {c : Region × Word} (h : Moderate c) :
    sign? (Readings.valueOf c.1 c.2) = some .positive := by
  obtain ⟨_, _, _, factor⟩ := exists_unpack_of_pos h.factor_pos h.factor_isFinite
  have number := sign?_toFloat_of_negative_eq_false h.unsigned
  have product := sign?_mul_of_finite (x := (leadingNumber c.2.text.toList).toFloat) factor
  rw [number] at product
  exact product

/-- Sums of moderate contributions may grow beyond all bounds, but they are numbers. -/
theorem isNaN_sum_of_moderate {contributions : List (Region × Word)}
    (moderate : ∀ c ∈ contributions, Moderate c) {value : Float}
    (start : sign? value = some .positive) :
    (Tally.sum value contributions).isNaN = false := by
  induction contributions generalizing value with
  | nil => exact isNaN_eq_false_iff.2 ⟨_, start⟩
  | cons c more ih =>
    obtain ⟨first, rest⟩ := List.forall_mem_cons.1 moderate
    exact ih rest (sign?_add_of_positive start first.sign?_valueOf)

/-- A seven that counts ones is moderate. -/
example : Moderate (Sample.region, Sample.seven) := by
  constructor <;> decide +kernel

namespace Session
variable {photo : RgbaImage} {offset : Offset} {s : Session}

theorem hasEngine_of_served (served : ∀ e ∈ s.events photo offset, e.Served) :
    s.hasEngine = true := by
  have unrefused : ∀ settings cause, .create settings (.error cause) ∉ s.events photo offset := by
    intro settings cause mem
    have ok := served _ mem
    contradiction
  exact hasEngine_of_not_mem unrefused

/-- Engines that serve end no cycle. -/
theorem findSome?_halt?_of_served {sessions : List Session}
    (served : ∀ e ∈ sessions.flatMap (events photo offset), e.Served) :
    sessions.findSome? halt? = none :=
  findSome?_halt?_eq_none fun _ _ mem => nomatch served _ mem

/-- In a session in which every region lies on pixels and is served, every region could be read. -/
theorem isSome_of_served (orderly : s.Orderly photo offset)
    (placed : ∀ region ∈ s.recognizer.regions,
      ¬ (s.recognizer.place photo offset region).IsEmpty)
    (served : ∀ e ∈ s.events photo offset, e.Served) :
    ∀ o ∈ s.observations, o.word.isSome = true := by
  rcases s with ⟨r, cause | cause | searches⟩
  · simp [observations]
  · have ok := served (.image (r.paper photo offset) (.error cause)) (by simp [events])
    contradiction
  · intro o mem
    obtain ⟨search, inside, rfl⟩ := List.mem_map.1 mem
    obtain ⟨region, own, isAt⟩ := Search.exists_isAt_of_forall₂ orderly search inside
    obtain ⟨answer, answered⟩ := Option.isSome_iff_exists.1 (isAt.asked_iff.2 (placed region own))
    have asked : .recognize answer ∈ events photo offset ⟨r, .searched searches⟩ := by
      have within : .recognize answer ∈ search.events := by simp [Search.events, answered]
      simp only [events, List.mem_cons, List.mem_append, List.mem_flatMap]
      exact .inr (.inr (.inl ⟨search, inside, within⟩))
    have found : answer.toOption.any (·.any (wordThreshold < ·.confidence)) = true :=
      served _ asked
    cases answer with
    | error cause => contradiction
    | ok words =>
      have words_eq : search.words = words := by simp [Search.words, answered]
      simpa [Search.glimpse, Glimpse.observation, acceptedWord, words_eq, Except.toOption]
        using found

theorem outcome_of_hasEngine (had : s.hasEngine = true) (held : Option (List Frame)) :
    s.outcome photo offset held =
      .ok ⟨s.observations, held.map (· ++ s.frames photo offset)⟩ := by
  rcases s with ⟨r, cause | cause | searches⟩
  · simp [hasEngine] at had
  · rfl
  · rfl

end Session

namespace Readings
variable {α : Type}

theorem nodup_identifiers (r : Readings α) : (r.entries.map Prod.fst).Nodup := by
  refine (List.pairwise_map.2 r.sorted).imp fun {a b} less same => ?_
  subst same
  exact String.lt_irrefl _ less

theorem size_noteAll_le [Amount α] (observations : List Observation) :
    ((empty : Readings α).noteAll observations).size ≤
      (observations.map (·.region.identifier)).dedup.length := by
  rw [size, ← List.length_map Prod.fst]
  refine ((nodup_identifiers _).subperm fun identifier mem => ?_).length_le
  rw [mem_map_fst_entries_iff, noteAll_eq_changeAll, exists_get?_changeAll_iff] at mem
  simpa using mem

end Readings

namespace Session
variable {photo : RgbaImage} {offset : Offset} {sessions : List Session}

/-- If every region could be read, only a sum that is none keeps an identifier back. -/
theorem mem_identifiers_blocks_iff_of_seen {α : Type} [Amount α]
    (orderly : ∀ s ∈ sessions, s.Orderly photo offset) (had : ∀ s ∈ sessions, s.hasEngine = true)
    (seen : ∀ o ∈ sessions.flatMap observations, o.word.isSome = true) (identifier : String) :
    identifier ∈ ((Readings.empty : Readings α).noteAll
        (sessions.flatMap observations)).blocks.map Block.identifier ↔
      regionsOf identifier (sessions.map recognizer) ≠ [] ∧
        Amount.isUnreadable (Tally.sum (Amount.zero : α) (firstWords identifier sessions)) =
          false := by
  have regions := map_region_observationsOf identifier orderly had
  rw [Readings.mem_identifiers_blocks_iff, ← regions, Ne, List.map_eq_nil_iff,
    ← contributionsTo_flatMap_observations]
  by_cases own : observationsOf identifier (sessions.flatMap observations) = []
  · simp [own, Readings.noteAll_eq_changeAll, Readings.get?_changeAll,
      Observation.changesOf_map_change]
  · obtain ⟨t, noted, value, -⟩ := Readings.get?_noteAll_of_seen (α := α) own fun o mem =>
      seen o (List.mem_filter.1 mem).1
    simp [own, noted, ← value]

end Session

namespace Tour
variable {photo : RgbaImage} {offset : Offset} {recognizers : List TextRecognizer}
  {sessions : List Session}

/-- On a tour on which every engine serves, every region that lies on pixels could be read. -/
theorem seen_of_served (tour : Tour photo offset recognizers sessions)
    (placed : ∀ r ∈ recognizers, ∀ region ∈ r.regions, ¬ (r.place photo offset region).IsEmpty)
    (served : ∀ e ∈ sessions.flatMap (Session.events photo offset), e.Served) :
    ∀ session ∈ sessions, session.hasEngine = true ∧
      ∀ o ∈ session.observations, o.word.isSome = true := by
  intro session mem
  have own : ∀ e ∈ session.events photo offset, e.Served := fun e inside =>
    served e (List.mem_flatMap.2 ⟨session, mem, inside⟩)
  have toured : session.recognizer ∈ recognizers := by
    rw [← tour.map_recognizer (Session.findSome?_halt?_of_served served)]
    exact List.mem_map_of_mem mem
  exact ⟨Session.hasEngine_of_served own,
    Session.isSome_of_served (tour.orderly session mem) (placed _ toured) own⟩

end Tour

namespace Meter
variable {σ : Type}

/-- The identifiers of all regions to be read, each once. -/
def identifiers (m : Meter) : List String :=
  ((m.textRecognizers.flatMap TextRecognizer.regions).map Region.identifier).dedup

theorem mem_identifiers_iff {m : Meter} {identifier : String} :
    identifier ∈ m.identifiers ↔ regionsOf identifier m.textRecognizers ≠ [] := by
  simp only [identifiers, regionsOf, List.mem_dedup, List.mem_map, ne_eq, List.filter_eq_nil_iff,
    decide_eq_true_eq, not_forall, not_not, exists_prop]

theorem textRecognizers_eq_nil {m : Meter} (none : m.identifiers = []) :
    m.textRecognizers = [] := by
  cases h : m.textRecognizers with
  | nil => rfl
  | cons r more => simp [identifiers, h, r.regions_ne_nil] at none

/-- If every engine does what it is asked and finds a word in each region, every recognizer could
read all its regions. With room for two readings of each identifier the cycle gives every
identifier, once, of which the sum is a number. That it is if all contributions are moderate. -/
theorem read_complete [ImageLibrary] (b : Backend σ) (m : Meter) (files : Files) {limit : Nat} (time : Timestamp)
    {photo : RgbaImage} (readable : files.picture? m.file = some photo) (s : σ)
    (served : ∀ e ∈ (m.read (α := Float) b.traced files limit time (s, [])).2.2, e.Served)
    (placed : ∀ r ∈ m.textRecognizers, ∀ region ∈ r.regions,
      ¬ (r.place (m.upright photo) (m.offset photo) region).IsEmpty)
    (room : 2 * m.identifiers.length ≤ limit) :
    let run : Cycle Float × σ × List EngineEvent := m.read b.traced files limit time (s, [])
    ∃ (sessions : List Session) (blocks : List (Block Float)),
      sessions.map Session.recognizer = m.textRecognizers ∧
      (∀ session ∈ sessions, session.Orderly (m.upright photo) (m.offset photo)) ∧
      run.2.2 = sessions.flatMap (Session.events (m.upright photo) (m.offset photo)) ∧
      (∀ session ∈ sessions, ∀ held, ∃ seen,
        session.outcome (m.upright photo) (m.offset photo) held = .ok seen ∧
          seen.complete = true) ∧
      run.1.readings = .ok (blocks.flatMap (Block.readings time)) ∧
      (blocks.map Block.identifier).Pairwise (· < ·) ∧
      (∀ identifier, identifier ∈ blocks.map Block.identifier ↔ identifier ∈ m.identifiers ∧
        (Tally.sum (0.0 : Float) (firstWords identifier sessions)).isNaN = false) ∧
      ∀ identifier ∈ m.identifiers, (∀ c ∈ firstWords identifier sessions, Moderate c) →
        identifier ∈ blocks.map Block.identifier := by
  intro run
  by_cases none : limit = 0
  -- No room is enough only for a meter without identifiers, and such a cycle asks no engine.
  · have nothing := m.textRecognizers_eq_nil (List.length_eq_zero_iff.1 (by omega))
    have idle := read_eq_of_nothing_to_read (α := Float) b.traced m files time (.inl none) (s, [])
    refine ⟨[], [], nothing.symm, by simp, ?_, by simp, ?_, .nil, ?_, ?_⟩
    · simp only [run, idle, List.flatMap_nil]
    · simp only [run, idle, List.flatMap_nil]
    · simp [identifiers, nothing]
    · simp [identifiers, nothing]
  obtain ⟨sessions, t, tour, -, traced⟩ :=
    m.read_traced (α := Float) b files time none readable s []
  simp only [run, traced, List.nil_append] at served ⊢
  have open' := Session.findSome?_halt?_of_served served
  have recognizers := tour.map_recognizer open'
  have seen := tour.seen_of_served placed served
  have had : ∀ session ∈ sessions, session.hasEngine = true := fun session mem =>
    (seen session mem).1
  have seenAll : ∀ o ∈ sessions.flatMap Session.observations, o.word.isSome = true := by
    intro o mem
    obtain ⟨session, inside, own⟩ := List.mem_flatMap.1 mem
    exact (seen session inside).2 o own
  let reads : Readings Float := Readings.empty.noteAll (sessions.flatMap Session.observations)
  have size : reads.size ≤ m.identifiers.length := by
    have regions := Session.map_region_flatMap_observations tour.orderly had
    rw [recognizers] at regions
    rw [identifiers, ← regions, List.map_map]
    exact Readings.size_noteAll_le _
  have given (identifier : String) : identifier ∈ reads.blocks.map Block.identifier ↔
      identifier ∈ m.identifiers ∧
        (Tally.sum (0.0 : Float) (firstWords identifier sessions)).isNaN = false := by
    rw [mem_identifiers_iff, ← recognizers]
    exact Session.mem_identifiers_blocks_iff_of_seen tour.orderly had seenAll identifier
  refine ⟨sessions, reads.blocks, recognizers, tour.orderly, rfl, ?_, ?_,
    reads.pairwise_identifiers_blocks, given, ?_⟩
  · intro session mem held
    exact ⟨_, Session.outcome_of_hasEngine (had session mem) held,
      List.all_eq_true.2 (seen session mem).2⟩
  · have whole := reads.emit_eq_of_room (by omega : 2 * reads.size ≤ limit) time
    simp only [cycleOf, open', ← whole, reads]
  · intro identifier mem moderate
    exact (given identifier).2 ⟨mem, isNaN_sum_of_moderate moderate (sign?_ofScientific ..)⟩

/-- All is read, and yet there is no reading: a zero is scaled by a factor that is infinite. -/
theorem read_complete_without_reading :
    let m : Meter := { Sample.meter [] with
      recognizers := [.text (Sample.recognizer { Sample.region with scaler := 309 } "eng")] }
    let zero : Word := ⟨"0", 90.0, ⟨0, 0, 1, 1⟩⟩
    let run : Cycle Float × Unit × List EngineEvent :=
      m.read (Sample.backend "eng" [zero]).traced Sample.files 10 ⟨0, 0⟩ ((), [])
    "id1" ∈ m.identifiers ∧ Sample.shown run.1 = some [] ∧
      ∃ sessions : List Session, sessions.map Session.recognizer = m.textRecognizers ∧
        (∀ session ∈ sessions, ∀ held, ∃ seen,
          session.outcome (m.upright Sample.photo) (m.offset Sample.photo) held = .ok seen ∧
            seen.complete = true) ∧
        (Tally.sum (0.0 : Float) (firstWords "id1" sessions)).isNaN = true := by
  intro m zero run
  have served : ∀ e ∈ run.2.2, e.Served := by decide +kernel
  have placed : ∀ r ∈ m.textRecognizers, ∀ region ∈ r.regions,
      ¬ (r.place (m.upright Sample.photo) (m.offset Sample.photo) region).IsEmpty := by
    decide +kernel
  have named : "id1" ∈ m.identifiers := by decide +kernel
  have blank : Sample.shown run.1 = some [] := by decide +kernel
  obtain ⟨sessions, blocks, recognizers, -, -, complete, readings, -, given, -⟩ :=
    read_complete (Sample.backend "eng" [zero]) m Sample.files ⟨0, 0⟩ Sample.picture?_files ()
      served placed (by decide +kernel : 2 * m.identifiers.length ≤ 10)
  refine ⟨named, blank, sessions, recognizers, complete, ?_⟩
  have none : blocks = [] := by
    rw [Sample.shown, readings] at blank
    cases blocks with
    | nil => rfl
    | cons block more => simp [Block.readings] at blank
  by_contra number
  have lost := (given "id1").2 ⟨named, by simpa using number⟩
  simp [none] at lost

end Meter
end MeterSight
