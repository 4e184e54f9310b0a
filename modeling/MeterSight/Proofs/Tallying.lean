import MeterSight.Proofs.Double

/-!
# Tallying

What the tally of an identifier holds after a history of changes: it is fed by the changes for its
own regions alone, in their order. If one of these regions could not be read, no amount added before
or after makes the tally readable. Taking observations into account is such a history.
-/
namespace MeterSight

/-- What cannot be read stays so, whatever is added. -/
class LawfulAmount (α : Type) [Amount α] : Prop where
  isUnreadable_unreadable : Amount.isUnreadable (Amount.unreadable : α) = true
  isUnreadable_add {a : α} (b : α) :
    Amount.isUnreadable a = true → Amount.isUnreadable (Amount.add a b) = true

instance : LawfulAmount Float where
  isUnreadable_unreadable := by decide +kernel
  isUnreadable_add b h := isNaN_add h b

/-- What readings hear of a region: an amount with its confidence, or that it cannot be read. -/
inductive Change (α : Type) where
  | add (region : Region) (value : α) (confidence : Float)
  | spoil (region : Region)

namespace Change
variable {α : Type}

def region : Change α → Region
  | add region _ _ => region
  | spoil region => region

/-- Makes its identifier unreadable. -/
def spoils : Change α → Bool
  | add .. => false
  | spoil _ => true

/-- The amount that is added. -/
def value? : Change α → Option α
  | add _ value _ => some value
  | spoil _ => none

/-- The confidence of what is added. -/
def confidence? : Change α → Option Float
  | add _ _ confidence => some confidence
  | spoil _ => none

end Change

/-- The changes for the regions with an identifier. -/
def changesOf {α : Type} (identifier : String) (changes : List (Change α)) : List (Change α) :=
  changes.filter (·.region.identifier = identifier)

namespace Tally
variable {α : Type} [Amount α]

def change (t : Tally α) : Change α → Tally α
  | .add region value confidence => (t.named region).add value confidence
  | .spoil region => (t.named region).spoil

theorem confidenceId_change (t : Tally α) (c : Change α) :
    (t.change c).confidenceId = (c.region.confidenceId <|> t.confidenceId) := by
  cases c <;> rfl

theorem confidenceId_foldl_change (t : Tally α) (changes : List (Change α)) :
    (changes.foldl change t).confidenceId =
      (changes.filterMap (·.region.confidenceId)).getLast?.or t.confidenceId := by
  induction changes generalizing t with
  | nil => rfl
  | cons c more ih =>
    rw [List.foldl_cons, ih, confidenceId_change]
    cases h : c.region.confidenceId with
    | none => simp [h]
    | some name =>
      rw [List.filterMap_cons, h, List.getLast?_cons]
      cases (more.filterMap (·.region.confidenceId)).getLast? <;> rfl

section readable
variable [LawfulAmount α]

theorem isUnreadable_change {t : Tally α} (h : Amount.isUnreadable t.value = true)
    (c : Change α) : Amount.isUnreadable (t.change c).value = true := by
  cases c with
  | add _ value _ => exact LawfulAmount.isUnreadable_add value h
  | spoil => exact LawfulAmount.isUnreadable_unreadable

theorem isUnreadable_foldl_change {t : Tally α} (h : Amount.isUnreadable t.value = true)
    (changes : List (Change α)) :
    Amount.isUnreadable (changes.foldl change t).value = true := by
  induction changes generalizing t with
  | nil => exact h
  | cons c more ih => exact ih (isUnreadable_change h c)

/-- One region that cannot be read is enough. -/
theorem isUnreadable_of_spoils {changes : List (Change α)} {c : Change α} (mem : c ∈ changes)
    (spoils : c.spoils = true) (t : Tally α) :
    Amount.isUnreadable (changes.foldl change t).value = true := by
  obtain ⟨before, after, rfl⟩ := List.append_of_mem mem
  rw [List.foldl_append, List.foldl_cons]
  refine isUnreadable_foldl_change ?_ after
  cases c with
  | add => contradiction
  | spoil => exact LawfulAmount.isUnreadable_unreadable

end readable

/-- While all regions can be read, amounts add up and the least confidence counts. -/
theorem foldl_change_of_readable {changes : List (Change α)}
    (readable : ∀ c ∈ changes, c.spoils = false) (t : Tally α) :
    (changes.foldl change t).value = (changes.filterMap Change.value?).foldl Amount.add t.value ∧
      (changes.foldl change t).minConfidence =
        (changes.filterMap Change.confidence?).foldl lesserConfidence t.minConfidence := by
  induction changes generalizing t with
  | nil => exact ⟨rfl, rfl⟩
  | cons c more ih =>
    cases c with
    | add region value confidence =>
      exact ih (fun c mem => readable c (List.mem_cons_of_mem _ mem)) _
    | spoil region => simpa [Change.spoils] using readable _ List.mem_cons_self

end Tally

namespace Readings
variable {α : Type}

theorem mem_entries_iff (r : Readings α) (identifier : String) (t : Tally α) :
    (identifier, t) ∈ r.entries ↔ r.get? identifier = some t := by
  obtain ⟨entries, sorted⟩ := r
  unfold get?
  induction entries with
  | nil => simp
  | cons first more ih =>
    obtain ⟨below, tail⟩ := List.pairwise_cons.1 sorted
    have later := ih tail
    by_cases same : first.1 = identifier
    · subst same
      have absent : (first.1, t) ∉ more := fun mem =>
        String.lt_irrefl _ (below (first.1, t) mem)
      simp [absent, Prod.ext_iff, eq_comm]
    · have other : (identifier, t) ≠ first := fun eq => same (eq ▸ rfl)
      simpa [same, other] using later

theorem mem_map_fst_entries_iff (r : Readings α) (identifier : String) :
    identifier ∈ r.entries.map Prod.fst ↔ ∃ t, r.get? identifier = some t := by
  simp [← mem_entries_iff]

variable [Amount α]

def change (r : Readings α) : Change α → Readings α
  | .add region value confidence => r.add region value confidence
  | .spoil region => r.markUnreadable region

/-- Makes changes one after the other. -/
def changeAll (r : Readings α) (changes : List (Change α)) : Readings α := changes.foldl change r

theorem get?_change (r : Readings α) (c : Change α) (identifier : String) :
    (r.change c).get? identifier =
      if c.region.identifier = identifier then
        some (((r.get? identifier).getD .empty).change c)
      else r.get? identifier := by
  have update (region : Region) (f : Tally α → Tally α) :
      (r.update region f).get? identifier =
        if region.identifier = identifier then
          some (f (((r.get? identifier).getD .empty).named region))
        else r.get? identifier := by
    by_cases own : region.identifier = identifier
    · subst own
      rw [get?_update_self, if_pos rfl]
    · rw [get?_update_of_ne r (Ne.symm own), if_neg own]
  cases c with
  | add region value confidence => exact update region (·.add value confidence)
  | spoil region => exact update region Tally.spoil

/-- A tally hears of the changes for its own regions only. -/
theorem get?_changeAll (r : Readings α) (changes : List (Change α)) (identifier : String) :
    (r.changeAll changes).get? identifier =
      if changesOf identifier changes = [] then r.get? identifier
      else some ((changesOf identifier changes).foldl Tally.change
        ((r.get? identifier).getD .empty)) := by
  induction changes generalizing r with
  | nil => rfl
  | cons c more ih =>
    rw [changeAll, List.foldl_cons, ← changeAll, ih, get?_change]
    by_cases own : c.region.identifier = identifier
    · have first : changesOf identifier (c :: more) = c :: changesOf identifier more := by
        simp [changesOf, own]
      rw [first, if_pos own]
      by_cases last : changesOf identifier more = [] <;> simp [last]
    · have skip : changesOf identifier (c :: more) = changesOf identifier more := by
        simp [changesOf, own]
      rw [skip, if_neg own]

theorem exists_get?_changeAll_iff (changes : List (Change α)) (identifier : String) :
    (∃ t, (empty.changeAll changes).get? identifier = some t) ↔
      ∃ c ∈ changes, c.region.identifier = identifier := by
  rw [get?_changeAll]
  by_cases none : changesOf identifier changes = []
  · simpa [none] using List.filter_eq_nil_iff.1 none
  · obtain ⟨c, mem⟩ := List.exists_mem_of_ne_nil _ none
    obtain ⟨inside, named⟩ := List.mem_filter.1 mem
    exact iff_of_true ⟨_, if_neg none⟩ ⟨c, inside, by simpa using named⟩

end Readings

/-- The observations of the regions with an identifier. -/
def observationsOf (identifier : String) (observations : List Observation) : List Observation :=
  observations.filter (·.region.identifier = identifier)

/-- The regions with an identifier that could be read, with their words. -/
def contributionsTo (identifier : String) (observations : List Observation) :
    List (Region × Word) :=
  (observationsOf identifier observations).filterMap fun o => o.word.map (o.region, ·)

theorem map_fst_contributionsTo {identifier : String} {observations : List Observation}
    (seen : ∀ o ∈ observationsOf identifier observations, o.word.isSome = true) :
    (contributionsTo identifier observations).map Prod.fst =
      (observationsOf identifier observations).map Observation.region := by
  unfold contributionsTo
  generalize observationsOf identifier observations = own at seen
  induction own with
  | nil => rfl
  | cons o more ih =>
    obtain ⟨region, _ | word⟩ := o
    · simpa using seen _ List.mem_cons_self
    · simpa using ih fun o mem => seen o (List.mem_cons_of_mem _ mem)

/-- Adds the amounts that regions show, in order. -/
def Tally.sum {α : Type} [Amount α] (value : α) (contributions : List (Region × Word)) : α :=
  contributions.foldl (fun v c => Amount.add v (Readings.valueOf c.1 c.2)) value

namespace Observation
variable {α : Type} [Amount α]

/-- The change that an observation makes. -/
def change (o : Observation) : Change α :=
  match o.word with
  | some word => .add o.region (Readings.valueOf o.region word) word.confidence
  | none => .spoil o.region

@[simp] theorem region_change (o : Observation) : (o.change : Change α).region = o.region := by
  unfold change
  split <;> rfl

theorem spoils_change (o : Observation) : (o.change : Change α).spoils = !o.word.isSome := by
  cases h : o.word <;> simp [change, h, Change.spoils]

theorem value?_change (o : Observation) :
    (o.change : Change α).value? = o.word.map (Readings.valueOf o.region) := by
  cases h : o.word <;> simp [change, h, Change.value?]

theorem confidence?_change (o : Observation) :
    (o.change : Change α).confidence? = o.word.map Word.confidence := by
  cases h : o.word <;> simp [change, h, Change.confidence?]

theorem changesOf_map_change (identifier : String) (observations : List Observation) :
    changesOf identifier (observations.map change : List (Change α)) =
      (observationsOf identifier observations).map change := by
  simp [changesOf, observationsOf, List.filter_map, Function.comp_def]

end Observation

namespace Readings
variable {α : Type} [Amount α]

theorem noteAll_eq_changeAll (r : Readings α) (observations : List Observation) :
    r.noteAll observations = r.changeAll (observations.map Observation.change) := by
  have note_eq (r : Readings α) (o : Observation) : r.note o = r.change o.change := by
    cases h : o.word <;> simp [note, Observation.change, h, change]
  rw [noteAll, changeAll, List.foldl_map]
  congr 1
  funext r o
  exact note_eq r o

/-- The tally after all changes for its identifier. -/
theorem get?_noteAll {observations : List Observation} {identifier : String}
    (ne : observationsOf identifier observations ≠ []) :
    ((empty : Readings α).noteAll observations).get? identifier =
      some (((observationsOf identifier observations).map Observation.change).foldl Tally.change
        .empty) := by
  rw [noteAll_eq_changeAll, get?_changeAll, Observation.changesOf_map_change, if_neg (by simpa)]
  rfl

/-- If all regions with an identifier could be read, the tally adds them up. -/
theorem get?_noteAll_of_seen {observations : List Observation} {identifier : String}
    (ne : observationsOf identifier observations ≠ [])
    (seen : ∀ o ∈ observationsOf identifier observations, o.word.isSome = true) :
    ∃ t, ((empty : Readings α).noteAll observations).get? identifier = some t ∧
      t.value = Tally.sum Amount.zero (contributionsTo identifier observations) ∧
      t.confidenceId =
        ((observationsOf identifier observations).filterMap (·.region.confidenceId)).getLast? ∧
      t.minConfidence =
        leastConfidence ((contributionsTo identifier observations).map (·.2.confidence)) := by
  have readable : ∀ c ∈ (observationsOf identifier observations).map Observation.change,
      (c : Change α).spoils = false := by
    intro c mem
    obtain ⟨o, inside, rfl⟩ := List.mem_map.1 mem
    simp [Observation.spoils_change, seen o inside]
  obtain ⟨value, least⟩ := Tally.foldl_change_of_readable readable Tally.empty
  refine ⟨_, get?_noteAll ne, ?_, ?_, ?_⟩
  · rw [value, List.filterMap_map, Tally.sum, contributionsTo, List.foldl_filterMap,
      List.foldl_filterMap]
    congr 1
    funext v o
    cases h : o.word <;> simp [Observation.value?_change, h]
  · rw [Tally.confidenceId_foldl_change, List.filterMap_map]
    simp [Tally.empty]
  · rw [least, List.filterMap_map, leastConfidence, contributionsTo, List.map_filterMap]
    simp [Function.comp_def, Observation.confidence?_change, Tally.empty]

/-- A readable tally adds up all regions with its identifier. -/
theorem tally_of_readable [LawfulAmount α] {observations : List Observation} {identifier : String}
    {t : Tally α} (noted : (empty.noteAll observations).get? identifier = some t)
    (readable : Amount.isUnreadable t.value = false) :
    observationsOf identifier observations ≠ [] ∧
      (∀ o ∈ observationsOf identifier observations, o.word.isSome = true) ∧
      t.value = Tally.sum Amount.zero (contributionsTo identifier observations) ∧
      t.confidenceId =
        ((observationsOf identifier observations).filterMap (·.region.confidenceId)).getLast? ∧
      t.minConfidence =
        leastConfidence ((contributionsTo identifier observations).map (·.2.confidence)) := by
  have ne : observationsOf identifier observations ≠ [] := by
    intro none
    rw [noteAll_eq_changeAll, get?_changeAll, Observation.changesOf_map_change, none] at noted
    contradiction
  have history := Option.some.inj (noted.symm.trans (get?_noteAll ne))
  have seen : ∀ o ∈ observationsOf identifier observations, o.word.isSome = true := by
    intro o mem
    by_contra blank
    have spoiled := Tally.isUnreadable_of_spoils (List.mem_map_of_mem (f := Observation.change) mem)
      (by simpa [Observation.spoils_change] using blank) (Tally.empty : Tally α)
    rw [history, spoiled] at readable
    contradiction
  obtain ⟨u, noted', told⟩ := get?_noteAll_of_seen (α := α) ne seen
  obtain rfl : t = u := Option.some.inj (noted.symm.trans noted')
  exact ⟨ne, seen, told⟩

end Readings
end MeterSight
