import MeterSight.Proofs.Tallying

/-!
# Emission

The readings of a cycle come in blocks: each readable identifier gives its value, and after it its
confidence if that was asked for. A block says what the tally of its identifier holds.
-/
namespace MeterSight

/-- The readings of one identifier. The confidence has a name of its own. -/
structure Block (α : Type) where
  identifier : String
  value : α
  confidence : Option (String × α)

namespace Block
variable {α : Type}

/-- The value first, the confidence after it. -/
def readings (time : Timestamp) (block : Block α) : List (Reading α) :=
  ⟨block.identifier, block.value, time⟩ ::
    (block.confidence.map fun c => ⟨c.1, c.2, time⟩).toList

/-- A block tells nothing but what a tally holds. -/
structure Tells [Amount α] (block : Block α) (t : Tally α) : Prop where
  readable : Amount.isUnreadable t.value = false
  value_eq : block.value = t.value
  confidence_eq : ∀ c ∈ block.confidence,
    t.confidenceId = some c.1 ∧ c.2 = Amount.ofConfidence t.minConfidence

/-- The block of an entry with all that it asks for, if it is readable. -/
def ofEntry? [Amount α] (entry : String × Tally α) : Option (Block α) :=
  if Amount.isUnreadable entry.2.value then none
  else some ⟨entry.1, entry.2.value,
    entry.2.confidenceId.map (·, Amount.ofConfidence entry.2.minConfidence)⟩

end Block

/-- Readings that are blocks of some of the entries, in their order. -/
def Emitted {α : Type} [Amount α] (time : Timestamp) (entries : List (String × Tally α))
    (readings : List (Reading α)) : Prop :=
  ∃ blocks : List (Block α), readings = blocks.flatMap (Block.readings time) ∧
    (blocks.map Block.identifier).Sublist (entries.map Prod.fst) ∧
    ∀ block ∈ blocks, ∃ t, (block.identifier, t) ∈ entries ∧ block.Tells t

namespace Emitted
variable {α : Type} [Amount α] {time : Timestamp} {entries : List (String × Tally α)}
  {readings : List (Reading α)}

theorem nothing : Emitted time entries ([] : List (Reading α)) :=
  ⟨[], rfl, by simp, by simp⟩

theorem skip (entry : String × Tally α) (h : Emitted time entries readings) :
    Emitted time (entry :: entries) readings := by
  obtain ⟨blocks, eq, sub, tells⟩ := h
  refine ⟨blocks, eq, sub.cons _, fun block mem => ?_⟩
  obtain ⟨t, inside, told⟩ := tells block mem
  exact ⟨t, List.mem_cons_of_mem _ inside, told⟩

theorem cons {block : Block α} {t : Tally α} (told : block.Tells t)
    (h : Emitted time entries readings) :
    Emitted time ((block.identifier, t) :: entries) (block.readings time ++ readings) := by
  obtain ⟨blocks, eq, sub, tells⟩ := h
  refine ⟨block :: blocks, by rw [eq, List.flatMap_cons], sub.cons_cons _, fun other mem => ?_⟩
  rcases List.mem_cons.1 mem with rfl | mem
  · exact ⟨t, List.mem_cons_self, told⟩
  · obtain ⟨u, inside, told⟩ := tells other mem
    exact ⟨u, List.mem_cons_of_mem _ inside, told⟩

end Emitted

namespace Readings
variable {α : Type} [Amount α]

theorem emitted_collect (time : Timestamp) (room : Nat) (entries : List (String × Tally α)) :
    Emitted time entries (collect time room entries) := by
  fun_induction collect time room entries with
  | case1 => exact .nothing
  | case2 room identifier t rest unreadable ih => exact ih.skip _
  | case3 identifier t rest readable => exact .nothing
  | case4 identifier t rest readable room unnamed ih =>
    have told : (⟨identifier, t.value, none⟩ : Block α).Tells t :=
      ⟨by simpa using readable, rfl, by simp⟩
    exact .cons told ih
  | case5 identifier t rest readable name named =>
    -- The room ends between the value and its confidence.
    have told : (⟨identifier, t.value, none⟩ : Block α).Tells t :=
      ⟨by simpa using readable, rfl, by simp⟩
    exact .cons told .nothing
  | case6 identifier t rest readable room name named ih =>
    have told : (⟨identifier, t.value, some (name, Amount.ofConfidence t.minConfidence)⟩ :
        Block α).Tells t :=
      ⟨by simpa using readable, rfl, by simp [named]⟩
    exact .cons told ih

/-- Every block of a cycle tells the tally of its identifier, and identifiers ascend. -/
theorem emitted_emit (r : Readings α) (limit : Nat) (time : Timestamp) :
    ∃ blocks : List (Block α), r.emit limit time = blocks.flatMap (Block.readings time) ∧
      (blocks.map Block.identifier).Pairwise (· < ·) ∧
      ∀ block ∈ blocks, ∃ t, r.get? block.identifier = some t ∧ block.Tells t := by
  obtain ⟨blocks, eq, sub, tells⟩ := emitted_collect time limit r.entries
  refine ⟨blocks, eq, ?_, fun block mem => ?_⟩
  · exact (List.pairwise_map.2 r.sorted).sublist sub
  · obtain ⟨t, inside, told⟩ := tells block mem
    exact ⟨t, (r.mem_entries_iff _ t).1 inside, told⟩

/-- What is collected is the beginning of what the blocks of all readable entries give. -/
theorem collect_eq_take (time : Timestamp) (room : Nat) (entries : List (String × Tally α)) :
    collect time room entries =
      ((entries.filterMap Block.ofEntry?).flatMap (Block.readings time)).take room := by
  fun_induction collect time room entries with
  | case1 => simp
  | case2 room identifier t rest unreadable ih => simp [Block.ofEntry?, unreadable, ih]
  | case3 => rw [List.take_zero]
  | case4 identifier t rest readable room unnamed ih =>
    simp [Block.ofEntry?, readable, unnamed, Block.readings, ih]
  | case5 identifier t rest readable name named =>
    simp [Block.ofEntry?, readable, named, Block.readings]
  | case6 identifier t rest readable room name named ih =>
    simp [Block.ofEntry?, readable, named, Block.readings, ih]

/-- No entry takes more than two readings. -/
theorem length_flatMap_readings_le (time : Timestamp) (entries : List (String × Tally α)) :
    ((entries.filterMap Block.ofEntry?).flatMap (Block.readings time)).length ≤
      2 * entries.length := by
  induction entries with
  | nil => simp
  | cons first rest ih =>
    cases made : Block.ofEntry? first with
    | none =>
      rw [List.filterMap_cons_none made, List.length_cons]
      omega
    | some block =>
      have pair : (block.readings time).length ≤ 2 := by
        cases named : block.confidence <;> simp [Block.readings, named]
      rw [List.filterMap_cons_some made, List.flatMap_cons, List.length_append, List.length_cons]
      omega

/-- With room for two readings of every entry nothing is cut off. -/
theorem collect_eq_of_room (time : Timestamp) (room : Nat) (entries : List (String × Tally α))
    (h : 2 * entries.length ≤ room) :
    collect time room entries =
      (entries.filterMap Block.ofEntry?).flatMap (Block.readings time) := by
  rw [collect_eq_take, List.take_of_length_le]
  exact Nat.le_trans (length_flatMap_readings_le time entries) h

/-- The blocks of all readable identifiers. -/
def blocks (r : Readings α) : List (Block α) := r.entries.filterMap Block.ofEntry?

theorem emit_eq_of_room (r : Readings α) {limit : Nat} (h : 2 * r.size ≤ limit)
    (time : Timestamp) : r.emit limit time = r.blocks.flatMap (Block.readings time) :=
  collect_eq_of_room time limit r.entries h

theorem mem_blocks_iff (r : Readings α) (block : Block α) :
    block ∈ r.blocks ↔ ∃ t, r.get? block.identifier = some t ∧
      Amount.isUnreadable t.value = false ∧ block.value = t.value ∧
      block.confidence = t.confidenceId.map (·, Amount.ofConfidence t.minConfidence) := by
  obtain ⟨identifier, value, confidence⟩ := block
  simp only [blocks, List.mem_filterMap, Block.ofEntry?]
  constructor
  · rintro ⟨⟨name, t⟩, mem, made⟩
    split at made
    · contradiction
    next readable =>
    obtain ⟨rfl, rfl, rfl⟩ := Block.mk.inj (Option.some.inj made)
    exact ⟨t, (r.mem_entries_iff name t).1 mem, by simpa using readable, rfl, rfl⟩
  · rintro ⟨t, noted, readable, rfl, rfl⟩
    exact ⟨(identifier, t), (r.mem_entries_iff identifier t).2 noted, if_neg (by simp [readable])⟩

theorem mem_identifiers_blocks_iff (r : Readings α) (identifier : String) :
    identifier ∈ r.blocks.map Block.identifier ↔
      ∃ t, r.get? identifier = some t ∧ Amount.isUnreadable t.value = false := by
  rw [List.mem_map]
  constructor
  · rintro ⟨block, mem, rfl⟩
    obtain ⟨t, noted, readable, -⟩ := (r.mem_blocks_iff block).1 mem
    exact ⟨t, noted, readable⟩
  · rintro ⟨t, noted, readable⟩
    exact ⟨⟨identifier, t.value, _⟩,
      (r.mem_blocks_iff _).2 ⟨t, noted, readable, rfl, rfl⟩, rfl⟩

theorem pairwise_identifiers_blocks (r : Readings α) :
    (r.blocks.map Block.identifier).Pairwise (· < ·) := by
  refine (List.pairwise_map.2 r.sorted).sublist ?_
  unfold blocks
  generalize r.entries = entries
  induction entries with
  | nil => simp
  | cons first rest ih =>
    by_cases unreadable : Amount.isUnreadable first.2.value = true
    · simpa [Block.ofEntry?, unreadable] using ih.cons first.1
    · simpa [Block.ofEntry?, unreadable] using ih

end Readings
end MeterSight
