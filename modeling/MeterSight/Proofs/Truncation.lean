import MeterSight.Proofs.ByteOrder
import MeterSight.Proofs.Emission
import MeterSight.Proofs.Session

/-!
# Truncation

A limited emission is the beginning of the unlimited one. It consists of whole blocks, of which the
last one may have lost its confidence, but never its value.
-/
namespace MeterSight
open Text

/-- The first of some blocks in full, and after these perhaps the value of the next one, without the
confidence that belongs to it. -/
inductive Cut {α : Type} (time : Timestamp) : List (Block α) → List (Reading α) → Prop where
  | whole (kept rest : List (Block α)) :
      Cut time (kept ++ rest) (kept.flatMap (Block.readings time))
  | split (kept : List (Block α)) (block : Block α) (rest : List (Block α))
      (named : block.confidence.isSome) :
      Cut time (kept ++ block :: rest)
        (kept.flatMap (Block.readings time) ++ [⟨block.identifier, block.value, time⟩])

namespace Cut
variable {α : Type} {time : Timestamp}

theorem cons (block : Block α) {blocks : List (Block α)} {readings : List (Reading α)}
    (h : Cut time blocks readings) :
    Cut time (block :: blocks) (block.readings time ++ readings) := by
  cases h with
  | whole kept rest => exact .whole (block :: kept) rest
  | split kept last rest named =>
    rw [← List.append_assoc]
    exact .split (block :: kept) last rest named

theorem take (blocks : List (Block α)) (limit : Nat) :
    Cut time blocks ((blocks.flatMap (Block.readings time)).take limit) := by
  induction blocks generalizing limit with
  | nil => rw [List.flatMap_nil, List.take_nil]; exact .whole [] []
  | cons block rest ih =>
    obtain ⟨identifier, value, confidence⟩ := block
    rw [List.flatMap_cons]
    match limit, confidence with
    | 0, _ =>
      rw [List.take_zero]
      exact .whole [] _
    | 1, some c => exact .split [] _ rest rfl
    | limit + 1, none =>
      simpa [Block.readings] using (ih limit).cons ⟨identifier, value, none⟩
    | limit + 2, some c =>
      simpa [Block.readings] using (ih limit).cons ⟨identifier, value, some c⟩

end Cut

namespace Readings
variable {α : Type} [Amount α]

theorem emit_eq_take (r : Readings α) (limit : Nat) (time : Timestamp) :
    r.emit limit time = (r.blocks.flatMap (Block.readings time)).take limit :=
  collect_eq_take time limit r.entries

/-- The readable identifiers in the order of their bytes, each with its value and after that with
its confidence if this has a name, are emitted as far as the limit goes. So a smaller limit gives a
beginning of what a larger one gives, and what is cut off from a block is at most its confidence. -/
theorem emit_truncates (r : Readings α) (time : Timestamp) :
    let all := r.blocks.flatMap (Block.readings time)
    ((r.blocks.map fun block => utf8Bytes block.identifier).Pairwise (· < ·) ∧
      ∀ block, block ∈ r.blocks ↔ ∃ t, r.get? block.identifier = some t ∧
        Amount.isUnreadable t.value = false ∧ block.value = t.value ∧
        block.confidence = t.confidenceId.map (·, Amount.ofConfidence t.minConfidence)) ∧
    (∀ limit, r.emit limit time = all.take limit) ∧
    (∀ k n, k ≤ n → r.emit k time <+: r.emit n time) ∧
    (∀ k, (r.emit k time).length = min k all.length) ∧
    (∀ k, Cut time r.blocks (r.emit k time)) ∧
    ∀ kept block rest, r.blocks = kept ++ block :: rest →
      r.emit ((kept.flatMap (Block.readings time)).length + 1) time =
        kept.flatMap (Block.readings time) ++ [⟨block.identifier, block.value, time⟩] := by
  intro all
  have taken (limit : Nat) : r.emit limit time = all.take limit := r.emit_eq_take limit time
  refine ⟨⟨?_, r.mem_blocks_iff⟩, taken, fun k n le => ?_, fun k => ?_, fun k => ?_,
    fun kept block rest eq => ?_⟩
  · have ascending := List.pairwise_map.1 r.pairwise_identifiers_blocks
    exact List.pairwise_map.2 (ascending.imp fun less => (utf8Bytes_lt_iff _ _).2 less)
  · rw [taken, taken]
    exact List.take_prefix_take_left le
  · rw [taken, List.length_take]
  · rw [taken]
    exact Cut.take r.blocks k
  · rw [taken]
    simp only [all, eq, List.flatMap_append, List.take_length_add_append, List.flatMap_cons]
    simp [Block.readings]

end Readings

namespace Sample

/-- Two identifiers can be read and one between them cannot; the second one has a confidence. -/
def mixedReadings : Readings Float :=
  let first : Region := { region with identifier := "a", identifier_ne_empty := by decide }
  let spoiled : Region := { region with identifier := "b", identifier_ne_empty := by decide }
  ((Readings.empty.add region 7.0 90.0).add (first.withConfidenceId none) 3.0 40.0).markUnreadable
    spoiled

/-- A limit of two cuts off the confidence of the second identifier. -/
theorem emit_truncates_before_confidence :
    mixedReadings.emit 2 ⟨0, 0⟩ <+: mixedReadings.emit 3 ⟨0, 0⟩ ∧
      (mixedReadings.emit 2 ⟨0, 0⟩).map (·.identifier) = ["a", "id1"] ∧
      (mixedReadings.emit 3 ⟨0, 0⟩).map (·.identifier) = ["a", "id1", "conf1"] := by
  obtain ⟨-, -, beginning, -⟩ := mixedReadings.emit_truncates ⟨0, 0⟩
  exact ⟨beginning 2 3 (by decide), by decide +kernel, by decide +kernel⟩

end Sample
end MeterSight
