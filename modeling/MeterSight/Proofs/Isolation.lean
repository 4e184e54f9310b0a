import MeterSight.Proofs.HandleProtocol
import MeterSight.Proofs.Tallying

/-!
# Isolation of identifiers

The regions of a recognizer share one engine, and its answers come one after the other. An answer
still counts only for the region that was looked at when it came. However an engine errs about the
regions with one identifier, the tallies of all others come out the same.
-/
namespace MeterSight

/-- The answer to the question for words. -/
def EngineEvent.answer? : EngineEvent → Option (Except MeterError (List Word))
  | recognize answer => some answer
  | _ => none

theorem observationsOf_cons (identifier : String) (o : Observation) (more : List Observation) :
    observationsOf identifier (o :: more) =
      if o.region.identifier = identifier then o :: observationsOf identifier more
      else observationsOf identifier more := by
  simp [observationsOf, List.filter_cons]

namespace Search

theorem filterMap_answer?_events (s : Search) :
    s.events.filterMap EngineEvent.answer? = s.answer.toList := by
  cases answered : s.answer <;> simp [events, answered, EngineEvent.answer?, List.filterMap_cons]

theorem filterMap_answer?_flatMap_events (searches : List Search) :
    (searches.flatMap events).filterMap EngineEvent.answer? = searches.filterMap answer := by
  induction searches with
  | nil => rfl
  | cons s more ih =>
    rw [List.flatMap_cons, List.filterMap_append, ih, filterMap_answer?_events]
    cases answered : s.answer <;> simp [answered]

/-- What is seen in a search. -/
def observation (s : Search) : Observation := s.glimpse.observation

@[simp] theorem region_observation (s : Search) : s.observation.region = s.region := rfl

theorem observation_eq {s s' : Search} (region : s.region = s'.region)
    (answer : s.answer = s'.answer) : s.observation = s'.observation := by
  simp [observation, glimpse, Glimpse.observation, words, region, answer]

/-- Two rows of searches for the same regions show the same of an identifier if they differ only in
answers for another. -/
theorem observationsOf_eq_of_alike {place : Region → Rect} {regions : List Region}
    {searches searches' : List Search} {name identifier : String} (other : identifier ≠ name)
    (h : List.Forall₂ (fun region search => search.IsAt region (place region)) regions searches)
    (h' : List.Forall₂ (fun region search => search.IsAt region (place region)) regions searches')
    (alike : ∀ (i : Nat) (region : Region),
      (regions.filter fun region => ¬ (place region).IsEmpty)[i]? = some region →
        region.identifier ≠ name →
          (searches.filterMap answer)[i]? = (searches'.filterMap answer)[i]?) :
    observationsOf identifier (searches.map observation) =
      observationsOf identifier (searches'.map observation) := by
  induction regions generalizing searches searches' with
  | nil =>
    cases h
    cases h'
    rfl
  | cons region regions ih =>
    obtain ⟨search, searches, isAt, rest, rfl⟩ := List.forall₂_cons_left_iff.1 h
    obtain ⟨search', searches', isAt', rest', rfl⟩ := List.forall₂_cons_left_iff.1 h'
    have same_region : search.region = search'.region :=
      isAt.region_eq.trans isAt'.region_eq.symm
    by_cases empty : (place region).IsEmpty
    · have unasked : search.answer = none := by simpa [empty] using isAt.asked_iff
      have unasked' : search'.answer = none := by simpa [empty] using isAt'.asked_iff
      have later := ih rest rest' (by simpa [empty, unasked, unasked'] using alike)
      rw [List.map_cons, List.map_cons, observation_eq same_region (unasked.trans unasked'.symm),
        observationsOf_cons, observationsOf_cons, later]
    · obtain ⟨answer, asked⟩ := Option.isSome_iff_exists.1 (isAt.asked_iff.2 empty)
      obtain ⟨answer', asked'⟩ := Option.isSome_iff_exists.1 (isAt'.asked_iff.2 empty)
      simp only [List.filter_cons, empty, not_false_eq_true, decide_true, if_true,
        List.filterMap_cons_some asked, List.filterMap_cons_some asked'] at alike
      -- The first answers belong to the first region, and the others move up by one.
      have later := ih rest rest' fun i region found => alike (i + 1) region (by simpa using found)
      by_cases own : region.identifier = identifier
      · have same : some answer = some answer' := alike 0 region rfl (own ▸ other)
        have same_answer : search.answer = search'.answer := by rw [asked, asked', same]
        rw [List.map_cons, List.map_cons, observation_eq same_region same_answer,
          observationsOf_cons, observationsOf_cons, later]
      · have skip : search.observation.region.identifier ≠ identifier := by
          simpa [isAt.region_eq] using own
        have skip' : search'.observation.region.identifier ≠ identifier := by
          simpa [isAt'.region_eq] using own
        rw [List.map_cons, List.map_cons, observationsOf_cons, observationsOf_cons, if_neg skip,
          if_neg skip', later]

end Search

namespace Session
variable {photo : RgbaImage} {offset : Offset} {s s' : Session}

theorem region_mem_of_mem_observations (orderly : s.Orderly photo offset) {o : Observation}
    (mem : o ∈ s.observations) : o.region ∈ s.recognizer.regions := by
  rcases s with ⟨r, cause | cause | searches⟩
  · simp [observations] at mem
  · obtain ⟨region, own, rfl⟩ := List.mem_map.1 mem
    exact own
  · obtain ⟨search, inside, rfl⟩ := List.mem_map.1 mem
    obtain ⟨region, own, isAt⟩ := Search.exists_isAt_of_forall₂ orderly search inside
    rw [show search.glimpse.observation.region = region from isAt.region_eq]
    exact own

/-- Sessions that begin with the same answers show the same of an identifier if they differ only in
answers for another. -/
theorem observationsOf_eq_of_alike {r : TextRecognizer} {name identifier : String}
    (other : identifier ≠ name) (own : s.recognizer = r) (own' : s'.recognizer = r)
    (orderly : s.Orderly photo offset) (orderly' : s'.Orderly photo offset)
    (prepared : s.preparations = s'.preparations)
    (alike : ∀ (i : Nat) (region : Region), (r.visible photo offset)[i]? = some region →
      region.identifier ≠ name →
        ((s.events photo offset).filterMap EngineEvent.answer?)[i]? =
          ((s'.events photo offset).filterMap EngineEvent.answer?)[i]?) :
    observationsOf identifier s.observations = observationsOf identifier s'.observations := by
  rcases s with ⟨r, cause | cause | searches⟩ <;>
    rcases s' with ⟨r', cause' | cause' | searches'⟩ <;>
    simp only [preparations, List.cons.injEq, reduceCtorEq, and_false, false_and] at prepared <;>
    obtain rfl := own <;> obtain rfl := own'
  · rfl
  · rfl
  · have answers (searches : List Search) :
        (events photo offset ⟨r', .searched searches⟩).filterMap EngineEvent.answer? =
          searches.filterMap Search.answer := by
      simp [events, EngineEvent.answer?, Search.filterMap_answer?_flatMap_events,
        List.filterMap_cons]
    simp only [answers] at alike
    exact Search.observationsOf_eq_of_alike other orderly orderly' alike

end Session

namespace Readings
variable {α : Type} [Amount α]

/-- A tally hears of the observations of its own regions only. -/
theorem get?_noteAll_congr (r : Readings α) {identifier : String}
    {observations observations' : List Observation}
    (same : observationsOf identifier observations = observationsOf identifier observations') :
    (r.noteAll observations).get? identifier = (r.noteAll observations').get? identifier := by
  rw [noteAll_eq_changeAll, noteAll_eq_changeAll, get?_changeAll, get?_changeAll,
    Observation.changesOf_map_change, Observation.changesOf_map_change, same]

end Readings

namespace Sample

/-- An engine that gives the answers of a list, one after the other. -/
def scripted : Backend (List (Except MeterError (List Word))) where
  create _ := return .ok ()
  setImage _ := return .ok ()
  setRectangle _ := return
  recognize answers := (answers.headD (.ok []), answers.tail)
  release := return

/-- The same pixels under another name. -/
def otherRegion : Region := { region with identifier := "other", identifier_ne_empty := by decide }

def pair : TextRecognizer :=
  { recognizer region "eng" with regions := [region, otherRegion], regions_ne_nil := by simp }

theorem events_readInto_pair (first second : Except MeterError (List Word)) :
    (pair.readInto (α := Float) scripted.traced photo .zero none .empty
        ([first, second], [])).2.2 =
      [.create pair.settings (.ok ()), .image (pair.paper photo .zero) (.ok ()),
        .rectangle (pair.place photo .zero region), .recognize first,
        .rectangle (pair.place photo .zero otherRegion), .recognize second, .release] := by
  have regions : pair.regions = [region, otherRegion] := rfl
  have inside : ¬ (pair.place photo .zero region).IsEmpty := by decide +kernel
  have inside' : ¬ (pair.place photo .zero otherRegion).IsEmpty := by decide +kernel
  cases first <;> cases second <;>
    simp [TextRecognizer.readInto, TextRecognizer.sight, TextRecognizer.search_eq,
      TextRecognizer.lookAll, TextRecognizer.look, stateM_bind_apply, stateM_map_apply,
      stateM_pure_apply, Backend.traced, scripted, regions, inside, inside']

end Sample

namespace TextRecognizer
variable {σ τ α : Type} [Amount α]

/-- Reading into readings is a session, of which they note what was seen. -/
theorem readInto_traced (b : Backend σ) (r : TextRecognizer) (photo : RgbaImage) (offset : Offset)
    (held : Option (List Frame)) (reads : Readings α) (s : σ) :
    let run := r.readInto b.traced photo offset held reads (s, [])
    ∃ session : Session, session.recognizer = r ∧ session.Orderly photo offset ∧
      run.1.2 = reads.noteAll session.observations ∧ run.2.2 = session.events photo offset := by
  obtain ⟨session, t, own, orderly, told⟩ := r.sight_traced b photo offset s []
  refine ⟨session, own, orderly, ?_, ?_⟩ <;>
    rcases session with ⟨r', cause | cause | searches⟩ <;>
    simp [readInto, stateM_bind_apply, stateM_pure_apply, (told held).2, Session.outcome,
      Session.observations, Readings.noteAll]

/-- If two engines begin alike and differ only in what they answer about the regions with one
identifier, they are asked for the same, and leave the same in the tally of every other identifier.
An identifier without regions keeps its tally. -/
theorem readInto_isolated (b : Backend σ) (b' : Backend τ) (r : TextRecognizer)
    (photo : RgbaImage) (offset : Offset) (held : Option (List Frame)) (reads : Readings α)
    (s : σ) (s' : τ) (name : String)
    (prepared : (r.readInto b.traced photo offset held reads (s, [])).2.2.filterMap
        EngineEvent.preparation? =
      (r.readInto b'.traced photo offset held reads (s', [])).2.2.filterMap
        EngineEvent.preparation?)
    (alike : ∀ (i : Nat) (region : Region), (r.visible photo offset)[i]? = some region →
      region.identifier ≠ name →
        ((r.readInto b.traced photo offset held reads (s, [])).2.2.filterMap
            EngineEvent.answer?)[i]? =
          ((r.readInto b'.traced photo offset held reads (s', [])).2.2.filterMap
            EngineEvent.answer?)[i]?) :
    let run := r.readInto b.traced photo offset held reads (s, [])
    let run' := r.readInto b'.traced photo offset held reads (s', [])
    (∀ identifier, identifier ≠ name → run.1.2.get? identifier = run'.1.2.get? identifier) ∧
      run.2.2.map EngineEvent.call =
        r.calls photo offset (run.2.2.filterMap EngineEvent.preparation?) ∧
      run'.2.2.map EngineEvent.call = run.2.2.map EngineEvent.call ∧
      ∀ identifier, (∀ region ∈ r.regions, region.identifier ≠ identifier) →
        run.1.2.get? identifier = reads.get? identifier ∧
          run'.1.2.get? identifier = reads.get? identifier := by
  intro run run'
  obtain ⟨session, own, orderly, noted, asked⟩ := r.readInto_traced b photo offset held reads s
  obtain ⟨session', own', orderly', noted', asked'⟩ :=
    r.readInto_traced b' photo offset held reads s'
  rw [asked, asked', Session.filterMap_preparation?_events,
    Session.filterMap_preparation?_events] at prepared
  rw [asked, asked'] at alike
  have calls := Session.map_call_events orderly
  have calls' := Session.map_call_events orderly'
  have kept {session : Session} (own : session.recognizer = r)
      (orderly : session.Orderly photo offset) {identifier : String}
      (unnamed : ∀ region ∈ r.regions, region.identifier ≠ identifier) :
      (reads.noteAll session.observations).get? identifier = reads.get? identifier := by
    have none : observationsOf identifier session.observations = observationsOf identifier [] := by
      refine List.filter_eq_nil_iff.2 fun o mem => ?_
      have inside := Session.region_mem_of_mem_observations orderly mem
      simpa using unnamed o.region (own ▸ inside)
    exact Readings.get?_noteAll_congr reads none
  refine ⟨fun identifier other => ?_, ?_, ?_, fun identifier unnamed => ⟨?_, ?_⟩⟩
  · have same := Session.observationsOf_eq_of_alike other own own' orderly orderly' prepared alike
    simp only [run, run', noted, noted']
    exact Readings.get?_noteAll_congr reads same
  · simp only [run, asked, calls, own, Session.filterMap_preparation?_events]
  · simp only [run, run', asked, asked', calls, calls', own, own', prepared]
  · simp only [run, noted]
    exact kept own orderly unnamed
  · simp only [run', noted']
    exact kept own' orderly' unnamed

/-- The engine fails at the first of two regions, or does not: the second is read all the same. -/
theorem readInto_isolated_pair :
    let run (answer : Except MeterError (List Word)) :=
      Sample.pair.readInto (α := Float) Sample.scripted.traced Sample.photo .zero none .empty
        ([answer, .ok [Sample.seven]], [])
    let lost := run (.error (.io .missing))
    let found := run (.ok [Sample.seven])
    (lost.1.2.get? "id1").map (fun t => t.value.isNaN) = some true ∧
      (found.1.2.get? "id1").map Tally.value = some 7.0 ∧
      (lost.1.2.get? "other").map Tally.value = some 7.0 ∧
      lost.1.2.get? "other" = found.1.2.get? "other" ∧
      found.2.2.map EngineEvent.call = lost.2.2.map EngineEvent.call := by
  intro run lost found
  have prepared : lost.2.2.filterMap EngineEvent.preparation? =
      found.2.2.filterMap EngineEvent.preparation? := by
    simp only [lost, found, run, Sample.events_readInto_pair]
    rfl
  have alike (i : Nat) (region : Region)
      (shown : (Sample.pair.visible Sample.photo .zero)[i]? = some region)
      (other : region.identifier ≠ "id1") :
      (lost.2.2.filterMap EngineEvent.answer?)[i]? =
        (found.2.2.filterMap EngineEvent.answer?)[i]? := by
    simp only [lost, found, run, Sample.events_readInto_pair]
    match i with
    | 0 =>
      have first : (Sample.pair.visible Sample.photo .zero).map Region.identifier =
          ["id1", "other"] := by decide +kernel
      have named := congrArg (·[0]?) first
      simp [shown] at named
      exact absurd named other
    | 1 => rfl
    | i + 2 => rfl
  obtain ⟨same, -, calls, -⟩ := readInto_isolated Sample.scripted Sample.scripted Sample.pair
    Sample.photo .zero none .empty _ _ "id1" prepared alike
  exact ⟨by decide +kernel, by decide +kernel, by decide +kernel, same "other" (by decide), calls⟩

end TextRecognizer
end MeterSight
