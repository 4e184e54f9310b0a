import MeterSight.Proofs.DoubleSign
import MeterSight.Proofs.Emission
import MeterSight.Proofs.Session

/-!
# Poisoning

A region that cannot be read spoils its identifier for good, whenever in a history of changes that
happens. As long as all that is added is finite nothing else does, even if the sum is too large for
a double. Hence the order of a history makes no difference to which identifiers there are, which of
them are given, and how far they can be trusted.
-/
namespace MeterSight

/-- What is added is finite, and its confidence not below zero. -/
def Change.Plain : Change Float → Prop
  | .add _ value confidence =>
    value.isFinite = true ∧ confidence.isFinite = true ∧ 0.0 ≤ confidence
  | .spoil _ => True

instance : (c : Change Float) → Decidable c.Plain
  | .add .. => inferInstanceAs (Decidable (_ ∧ _ ∧ _))
  | .spoil _ => isTrue trivial

namespace Change.Plain
variable {c : Change Float} {x : Float}

theorem isFinite_value? (plain : c.Plain) (h : c.value? = some x) : x.isFinite = true := by
  cases c with
  | add region value confidence =>
    obtain rfl := Option.some.inj h
    exact plain.1
  | spoil => contradiction

theorem isFinite_confidence? (plain : c.Plain) (h : c.confidence? = some x) :
    x.isFinite = true := by
  cases c with
  | add region value confidence =>
    obtain rfl := Option.some.inj h
    exact plain.2.1
  | spoil => contradiction

end Change.Plain

namespace Tally

/-- What a tally holds, told by all changes for its identifier at once. -/
structure Told (t : Tally Float) (own : List (Change Float)) : Prop where
  isNaN_iff : t.value.isNaN = true ↔ ∃ c ∈ own, c.spoils = true
  minConfidence_of_spoiled : (∃ c ∈ own, c.spoils = true) → t.minConfidence = 0.0
  minConfidence_of_readable : (∀ c ∈ own, c.spoils = false) →
    t.minConfidence ∈ own.filterMap Change.confidence? ∧
      ∀ x ∈ own.filterMap Change.confidence?, t.minConfidence ≤ x
  confidenceId_eq : t.confidenceId = (own.filterMap (·.region.confidenceId)).getLast?

section history
variable {own : List (Change Float)}

theorem isFinite_confidences (plain : ∀ c ∈ own, c.Plain) :
    ∀ x ∈ own.filterMap Change.confidence?, x.isFinite = true := by
  intro x mem
  obtain ⟨c, inside, given⟩ := List.mem_filterMap.1 mem
  exact (plain c inside).isFinite_confidence? given

/-- A sum may leave the finite numbers, but cannot come to be none at all. -/
theorem isNaN_foldl_add {amounts : List Float} (finite : ∀ x ∈ amounts, x.isFinite = true)
    {value : Float} (number : value.isNaN = false) :
    (amounts.foldl Amount.add value).isNaN = false := by
  induction amounts generalizing value with
  | nil => exact number
  | cons x more ih =>
    obtain ⟨first, rest⟩ := List.forall_mem_cons.1 finite
    exact ih rest (isNaN_add_of_isFinite number first)

theorem minConfidence_change_of_zero {t : Tally Float} (zero : t.minConfidence = 0.0)
    {c : Change Float} (plain : c.Plain) : (t.change c).minConfidence = 0.0 := by
  cases c with
  | add region value confidence =>
    obtain ⟨-, finite, le⟩ := plain
    have number := isNaN_eq_false_of_isFinite finite
    have notLess : ¬ confidence < 0.0 := by
      rw [le_iff_rank_le (by decide +kernel) number] at le
      rw [lt_iff_rank_lt number (by decide +kernel)]
      omega
    show lesserConfidence t.minConfidence confidence = 0.0
    rw [zero, lesserConfidence, if_neg notLess]
  | spoil => rfl

theorem minConfidence_foldl_change_of_zero {t : Tally Float} (zero : t.minConfidence = 0.0)
    (plain : ∀ c ∈ own, c.Plain) : (own.foldl change t).minConfidence = 0.0 := by
  induction own generalizing t with
  | nil => exact zero
  | cons c more ih =>
    obtain ⟨first, rest⟩ := List.forall_mem_cons.1 plain
    exact ih (minConfidence_change_of_zero zero first) rest

/-- No confidence added later brings that of a spoiled tally back. -/
theorem minConfidence_foldl_change_of_spoils (plain : ∀ c ∈ own, c.Plain)
    (spoiled : ∃ c ∈ own, c.spoils = true) (t : Tally Float) :
    (own.foldl change t).minConfidence = 0.0 := by
  obtain ⟨c, mem, spoils⟩ := spoiled
  obtain ⟨before, after, rfl⟩ := List.append_of_mem mem
  rw [List.foldl_append, List.foldl_cons]
  -- What came before the spoiling change is forgotten; what comes after cannot undercut zero.
  refine minConfidence_foldl_change_of_zero ?_ fun d inside => plain d (by simp [inside])
  cases c with
  | add => contradiction
  | spoil => rfl

theorem told_foldl_change (plain : ∀ c ∈ own, c.Plain) (ne : own ≠ []) :
    (own.foldl change empty).Told own := by
  refine ⟨⟨?_, ?_⟩, ?_, ?_, ?_⟩
  · intro none
    by_contra readable
    have seen : ∀ c ∈ own, c.spoils = false := by simpa using readable
    have amounts : ∀ x ∈ own.filterMap Change.value?, x.isFinite = true := by
      intro x mem
      obtain ⟨c, inside, given⟩ := List.mem_filterMap.1 mem
      exact (plain c inside).isFinite_value? given
    have number : (List.foldl Amount.add Amount.zero (own.filterMap Change.value?)).isNaN = false :=
      isNaN_foldl_add amounts (by decide +kernel)
    rw [(foldl_change_of_readable seen empty).1] at none
    exact Bool.false_ne_true (number.symm.trans none)
  · rintro ⟨c, mem, spoils⟩
    exact isUnreadable_of_spoils mem spoils empty
  · intro spoiled
    exact minConfidence_foldl_change_of_spoils plain spoiled empty
  · intro seen
    have least : (own.foldl change empty).minConfidence =
        leastConfidence (own.filterMap Change.confidence?) :=
      (foldl_change_of_readable seen empty).2
    have some : own.filterMap Change.confidence? ≠ [] := by
      obtain ⟨c, mem⟩ := List.exists_mem_of_ne_nil own ne
      cases c with
      | add region value confidence =>
        exact List.ne_nil_of_mem (List.mem_filterMap.2 ⟨_, mem, rfl⟩)
      | spoil => exact absurd (seen _ mem) (by simp [Change.spoils])
    rw [least]
    have finite := isFinite_confidences plain
    exact ⟨leastConfidence_mem finite some, leastConfidence_le finite⟩
  · simpa [empty] using confidenceId_foldl_change empty own

end history

/-- Tallies told by the same changes agree, in whatever order these came. -/
theorem Told.agree {t u : Tally Float} {own order : List (Change Float)} (ht : t.Told own)
    (hu : u.Told order) (same : order.Perm own) (plain : ∀ c ∈ own, c.Plain) :
    u.value.isNaN = t.value.isNaN ∧ (u.minConfidence == t.minConfidence) = true := by
  have spoiled : (∃ c ∈ order, c.spoils = true) ↔ ∃ c ∈ own, c.spoils = true := by
    simp only [same.mem_iff]
  constructor
  · rw [Bool.eq_iff_iff, hu.isNaN_iff, ht.isNaN_iff, spoiled]
  by_cases spoils : ∃ c ∈ own, c.spoils = true
  · rw [ht.minConfidence_of_spoiled spoils, hu.minConfidence_of_spoiled (spoiled.2 spoils)]
    decide +kernel
  · have seen : ∀ c ∈ own, c.spoils = false := by simpa using spoils
    have seen' : ∀ c ∈ order, c.spoils = false := fun c mem => seen c (same.mem_iff.1 mem)
    obtain ⟨mem, least⟩ := ht.minConfidence_of_readable seen
    obtain ⟨mem', least'⟩ := hu.minConfidence_of_readable seen'
    have confidences := same.filterMap Change.confidence?
    have finite := isFinite_confidences plain
    have number := isNaN_eq_false_of_isFinite (finite _ mem)
    have number' := isNaN_eq_false_of_isFinite (finite _ (confidences.mem_iff.1 mem'))
    -- Each is the least, so neither exceeds the other; they may be zeros of different signs.
    have le := (le_iff_rank_le number number').1 (least _ (confidences.mem_iff.1 mem'))
    have ge := (le_iff_rank_le number' number).1 (least' _ (confidences.mem_iff.2 mem))
    rw [beq_iff_rank_eq number' number]
    omega

end Tally

namespace Readings

theorem told_of_get?_changeAll {changes : List (Change Float)} (plain : ∀ c ∈ changes, c.Plain)
    {identifier : String} {t : Tally Float}
    (noted : (empty.changeAll changes).get? identifier = some t) :
    t.Told (changesOf identifier changes) := by
  rw [get?_changeAll] at noted
  split at noted
  · contradiction
  next ne =>
  obtain rfl := Option.some.inj noted
  exact Tally.told_foldl_change (fun c mem => plain c (List.mem_filter.1 mem).1) ne

/-- The identifiers of readings are known from which of them have a tally. -/
theorem map_fst_entries_eq {α : Type} {r r' : Readings α}
    (same : ∀ identifier, (∃ t, r.get? identifier = some t) ↔ ∃ t, r'.get? identifier = some t) :
    r.entries.map Prod.fst = r'.entries.map Prod.fst := by
  refine List.Pairwise.eq_of_mem_iff (List.pairwise_map.2 r.sorted) (List.pairwise_map.2 r'.sorted)
    fun identifier => ?_
  rw [mem_map_fst_entries_iff, mem_map_fst_entries_iff, same]

/-- An identifier is given just if it is named and never spoiled. -/
theorem mem_identifiers_blocks_changeAll_iff {changes : List (Change Float)}
    (plain : ∀ c ∈ changes, c.Plain) (identifier : String) :
    identifier ∈ (empty.changeAll changes).blocks.map Block.identifier ↔
      (∃ c ∈ changes, c.region.identifier = identifier) ∧
        ∀ c ∈ changes, c.region.identifier = identifier → c.spoils = false := by
  rw [mem_identifiers_blocks_iff, ← exists_get?_changeAll_iff]
  have spoiled_iff {t : Tally Float} (noted : (empty.changeAll changes).get? identifier = some t) :
      Amount.isUnreadable t.value = false ↔
        ∀ c ∈ changes, c.region.identifier = identifier → c.spoils = false := by
    have told := (told_of_get?_changeAll plain noted).isNaN_iff
    change t.value.isNaN = false ↔ _
    rw [← Bool.not_eq_true, told]
    simp [changesOf]
  constructor
  · rintro ⟨t, noted, readable⟩
    exact ⟨⟨t, noted⟩, (spoiled_iff noted).1 readable⟩
  · rintro ⟨⟨t, noted⟩, unspoiled⟩
    exact ⟨t, noted, (spoiled_iff noted).2 unspoiled⟩

/-- What a history of plain changes leaves: a tally for every identifier that is named, and a block
of readings for it unless one of its regions could not be read. Any other order of the history
leaves the same identifiers, as readable and as trustworthy as before, and gives the same ones. -/
theorem told_changeAll_in_any_order {changes : List (Change Float)}
    (plain : ∀ c ∈ changes, c.Plain) :
    let reads : Readings Float := empty.changeAll changes
    (∀ identifier, (∃ t, reads.get? identifier = some t) ↔
      ∃ c ∈ changes, c.region.identifier = identifier) ∧
    (∀ identifier t, reads.get? identifier = some t →
      t.Told (changesOf identifier changes)) ∧
    ∀ order : List (Change Float), order.Perm changes →
      let other : Readings Float := empty.changeAll order
      other.entries.map Prod.fst = reads.entries.map Prod.fst ∧
      (∀ identifier t u, reads.get? identifier = some t → other.get? identifier = some u →
        u.value.isNaN = t.value.isNaN ∧ (u.minConfidence == t.minConfidence) = true) ∧
      ∀ limit time, 2 * reads.size ≤ limit →
        ∃ blocks blocks' : List (Block Float),
          reads.emit limit time = blocks.flatMap (Block.readings time) ∧
          other.emit limit time = blocks'.flatMap (Block.readings time) ∧
          blocks'.map Block.identifier = blocks.map Block.identifier ∧
          (blocks.map Block.identifier).Pairwise (· < ·) ∧
          ∀ identifier, identifier ∈ blocks.map Block.identifier ↔
            (∃ c ∈ changes, c.region.identifier = identifier) ∧
              ∀ c ∈ changes, c.region.identifier = identifier → c.spoils = false := by
  intro reads
  refine ⟨exists_get?_changeAll_iff changes, fun identifier t => told_of_get?_changeAll plain, ?_⟩
  intro order same other
  have plain' : ∀ c ∈ order, c.Plain := fun c mem => plain c (same.mem_iff.1 mem)
  have identifiers : other.entries.map Prod.fst = reads.entries.map Prod.fst :=
    map_fst_entries_eq fun identifier => by
      rw [exists_get?_changeAll_iff, exists_get?_changeAll_iff]
      simp only [same.mem_iff]
  refine ⟨identifiers, ?_, ?_⟩
  · intro identifier t u noted noted'
    exact (told_of_get?_changeAll plain noted).agree (told_of_get?_changeAll plain' noted')
      (same.filter _) fun c mem => plain c (List.mem_filter.1 mem).1
  intro limit time room
  have sizes : other.size = reads.size := by
    simpa [size] using congrArg List.length identifiers
  have given := mem_identifiers_blocks_changeAll_iff plain
  refine ⟨reads.blocks, other.blocks, emit_eq_of_room _ room time,
    emit_eq_of_room _ (sizes ▸ room) time, ?_, pairwise_identifiers_blocks _, given⟩
  refine List.Pairwise.eq_of_mem_iff (pairwise_identifiers_blocks _)
    (pairwise_identifiers_blocks _) fun identifier => ?_
  rw [mem_identifiers_blocks_changeAll_iff plain', given]
  simp only [same.mem_iff]

end Readings

namespace Sample

/-- Amounts of one identifier are too large to add up, and a region of the other is spoiled between
two that can be read. -/
def history : List (Change Float) :=
  let other : Region := { region with identifier := "id2", identifier_ne_empty := by decide }
  [.add other 1e308 40.0, .add region 4.0 95.0, .spoil region, .add other 1e308 16.5,
    .add region 2.0 70.0]

theorem told_history_reversed :
    let reads : Readings Float := Readings.empty.changeAll history
    let other : Readings Float := Readings.empty.changeAll history.reverse
    (∀ c ∈ history, c.Plain) ∧ history.reverse.Perm history ∧
      (∃ t, reads.get? "id1" = some t ∧ t.value.isNaN = true ∧ t.minConfidence = 0.0) ∧
      ∃ blocks blocks' : List (Block Float),
        reads.emit 4 ⟨0, 0⟩ = blocks.flatMap (Block.readings ⟨0, 0⟩) ∧
        other.emit 4 ⟨0, 0⟩ = blocks'.flatMap (Block.readings ⟨0, 0⟩) ∧
        blocks'.map Block.identifier = blocks.map Block.identifier ∧
        "id2" ∈ blocks.map Block.identifier := by
  intro reads other
  have plain : ∀ c ∈ history, c.Plain := by decide +kernel
  have same : history.reverse.Perm history := List.reverse_perm _
  obtain ⟨named, told, ordered⟩ := Readings.told_changeAll_in_any_order plain
  obtain ⟨-, -, given⟩ := ordered history.reverse same
  obtain ⟨blocks, blocks', eq, eq', identifiers, -, mem_iff⟩ := given 4 ⟨0, 0⟩ (by decide +kernel)
  obtain ⟨t, noted⟩ := (named "id1").2 ⟨.spoil region, by simp [history], rfl⟩
  have spoiled : ∃ c ∈ changesOf "id1" history, c.spoils = true :=
    ⟨.spoil region, List.mem_filter.2 ⟨by simp [history], by simp [Change.region, region]⟩, rfl⟩
  refine ⟨plain, same, ⟨t, noted, (told "id1" t noted).isNaN_iff.2 spoiled,
    (told "id1" t noted).minConfidence_of_spoiled spoiled⟩,
    blocks, blocks', eq, eq', identifiers, ?_⟩
  refine (mem_iff "id2").2 ⟨⟨_, List.mem_cons_self, rfl⟩, ?_⟩
  simp [history, Change.region, Change.spoils, region]

end Sample
end MeterSight
