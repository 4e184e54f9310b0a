import MeterSight.Ocr.Engine
import MeterSight.Reading.Amount
import MeterSight.Reading.LeadingNumber
import MeterSight.Reading.Timestamp
import MeterSight.Region

/-!
# Tallies

What the regions of a cycle say about each identifier. Several regions with one identifier make up
one number, each with its own power of ten. A region that cannot be read spoils its identifier for
the whole cycle.
-/
namespace MeterSight

/-- What a cycle says of one region: the word it goes by, if there is one. -/
structure Observation where
  region : Region
  word : Option Word

/-- What is known so far about one identifier. -/
structure Tally (α : Type) where
  value : α
  confidenceId : Option String
  minConfidence : Float

/-- The largest finite double, above every confidence. -/
def topConfidence : Float := 1.7976931348623157e308

/-- The lesser of two confidences; one that is no number does not count. -/
def lesserConfidence (known new : Float) : Float := if new < known then new else known

namespace Tally
variable {α : Type} [Amount α]

def empty : Tally α := ⟨Amount.zero, none, topConfidence⟩

/-- Takes the confidence identifier of a region, if it has one. -/
def named (t : Tally α) (region : Region) : Tally α :=
  { t with confidenceId := region.confidenceId <|> t.confidenceId }

def add (t : Tally α) (value : α) (confidence : Float) : Tally α :=
  { t with
    value := Amount.add t.value value
    minConfidence := lesserConfidence t.minConfidence confidence }

/-- No later amount makes this readable again. -/
def spoil (t : Tally α) : Tally α := { t with value := Amount.unreadable, minConfidence := 0.0 }

end Tally

/-- The tallies of a cycle in ascending order of their identifiers. -/
structure Readings (α : Type) where
  entries : List (String × Tally α)
  sorted : entries.Pairwise fun a b => a.1 < b.1

/-- One line of the result of a cycle. -/
structure Reading (α : Type) where
  identifier : String
  value : α
  time : Timestamp

namespace Readings
variable {α : Type}

def empty : Readings α := ⟨[], .nil⟩

def size (r : Readings α) : Nat := r.entries.length

/-- The tally of an identifier. -/
def get? (r : Readings α) (identifier : String) : Option (Tally α) :=
  (r.entries.find? fun e => e.1 = identifier).map Prod.snd

/-- Changes the entry of a key in a sorted list, or puts one where it belongs. -/
def alter (key : String) (f : Option (Tally α) → Tally α) :
    List (String × Tally α) → List (String × Tally α)
  | [] => [(key, f none)]
  | (k, t) :: rest =>
    if key < k then (key, f none) :: (k, t) :: rest
    else if key = k then (k, f (some t)) :: rest
    else (k, t) :: alter key f rest

theorem mem_alter {key : String} {f : Option (Tally α) → Tally α}
    {entries : List (String × Tally α)} {e : String × Tally α} (h : e ∈ alter key f entries) :
    e.1 = key ∨ ∃ t, (e.1, t) ∈ entries := by
  induction entries with
  | nil => simp_all [alter]
  | cons first rest ih =>
    simp only [alter] at h
    split at h
    · rcases List.mem_cons.1 h with rfl | h
      · exact .inl rfl
      · exact .inr ⟨e.2, h⟩
    · split at h
      · next same =>
        rcases List.mem_cons.1 h with rfl | h
        · exact .inl same.symm
        · exact .inr ⟨e.2, List.mem_cons_of_mem _ h⟩
      · rcases List.mem_cons.1 h with rfl | h
        · exact .inr ⟨first.2, List.mem_cons_self ..⟩
        · rcases ih h with h | ⟨t, h⟩
          · exact .inl h
          · exact .inr ⟨t, List.mem_cons_of_mem _ h⟩

theorem pairwise_alter (key : String) (f : Option (Tally α) → Tally α)
    {entries : List (String × Tally α)} (h : entries.Pairwise fun a b => a.1 < b.1) :
    (alter key f entries).Pairwise fun a b => a.1 < b.1 := by
  induction entries with
  | nil => simp [alter]
  | cons first rest ih =>
    have ⟨below, tail⟩ := List.pairwise_cons.1 h
    simp only [alter]
    split
    · next less =>
      refine List.pairwise_cons.2 ⟨fun e he => ?_, h⟩
      rcases List.mem_cons.1 he with rfl | he
      · exact less
      · exact String.lt_trans less (below e he)
    · split
      · exact List.pairwise_cons.2 ⟨below, tail⟩
      · next notLess notSame =>
        refine List.pairwise_cons.2 ⟨fun e he => ?_, ih tail⟩
        rcases mem_alter he with same | ⟨t, he⟩
        · rw [same]
          exact Std.lt_of_le_of_ne (String.not_lt.1 notLess) fun e => notSame e.symm
        · exact below (e.1, t) he

/-- Changes the tally of a region's identifier. -/
def update [Amount α] (r : Readings α) (region : Region) (f : Tally α → Tally α) : Readings α where
  entries := alter region.identifier (fun t => f ((t.getD .empty).named region)) r.entries
  sorted := pairwise_alter _ _ r.sorted

@[simp] theorem get?_empty (identifier : String) :
    (empty : Readings α).get? identifier = none := rfl

theorem find?_alter_self (key : String) (f : Option (Tally α) → Tally α)
    {entries : List (String × Tally α)} (h : entries.Pairwise fun a b => a.1 < b.1) :
    (alter key f entries).find? (fun e => e.1 = key) =
      some (key, f ((entries.find? fun e => e.1 = key).map Prod.snd)) := by
  induction entries with
  | nil => simp [alter]
  | cons first rest ih =>
    have ⟨below, tail⟩ := List.pairwise_cons.1 h
    simp only [alter]
    split
    · next less =>
      have absent : (first :: rest).find? (fun e => e.1 = key) = none := by
        refine List.find?_eq_none.2 fun e he => ?_
        have above : key < e.1 := by
          rcases List.mem_cons.1 he with rfl | he
          · exact less
          · exact String.lt_trans less (below e he)
        simpa using fun same : e.1 = key => String.lt_irrefl key (same ▸ above)
      simp [absent]
    · split
      · next same => simp [same]
      · next notSame => simpa [Ne.symm notSame] using ih tail

theorem find?_alter_of_ne {key other : String} (h : other ≠ key)
    (f : Option (Tally α) → Tally α) (entries : List (String × Tally α)) :
    (alter key f entries).find? (fun e => e.1 = other) =
      entries.find? fun e => e.1 = other := by
  induction entries with
  | nil => simp [alter, h.symm]
  | cons first rest ih =>
    simp only [alter]
    split
    · simp [h.symm]
    · split
      · next same => simp [← same, h.symm]
      · simp only [List.find?_cons, ih]

@[simp] theorem get?_update_self [Amount α] (r : Readings α) (region : Region)
    (f : Tally α → Tally α) :
    (r.update region f).get? region.identifier =
      some (f (((r.get? region.identifier).getD .empty).named region)) := by
  simp [get?, update, find?_alter_self _ _ r.sorted]

theorem get?_update_of_ne [Amount α] (r : Readings α) {region : Region} {identifier : String}
    (h : identifier ≠ region.identifier) (f : Tally α → Tally α) :
    (r.update region f).get? identifier = r.get? identifier := by
  simp [get?, update, find?_alter_of_ne h]

/-- Adds an amount that a region shows. -/
def add [Amount α] (r : Readings α) (region : Region) (value : α) (confidence : Float) :
    Readings α :=
  r.update region (·.add value confidence)

/-- Spoils the identifier of a region. -/
def markUnreadable [Amount α] (r : Readings α) (region : Region) : Readings α :=
  r.update region Tally.spoil

/-- The amount that a word in a region stands for. -/
def valueOf [Amount α] (region : Region) (word : Word) : α :=
  Amount.mul (Amount.ofNumeral (leadingNumber word.text.toList)) (Amount.tenTo region.scaler)

/-- Takes an observation into account. -/
def note [Amount α] (r : Readings α) (o : Observation) : Readings α :=
  match o.word with
  | some word => r.add o.region (valueOf o.region word) word.confidence
  | none => r.markUnreadable o.region

/-- Takes observations into account, in order. -/
def noteAll [Amount α] (r : Readings α) (observations : List Observation) : Readings α :=
  observations.foldl note r

/-- Readings of tallies, until there are `room` of them: the value of each readable identifier,
and its confidence after it if that has a name. -/
def collect [Amount α] (time : Timestamp) : Nat → List (String × Tally α) → List (Reading α)
  | _, [] => []
  | room, (identifier, t) :: rest =>
    if Amount.isUnreadable t.value then collect time room rest
    else
      match room, t.confidenceId with
      | 0, _ => []
      | room + 1, none => ⟨identifier, t.value, time⟩ :: collect time room rest
      | 1, some _ => [⟨identifier, t.value, time⟩]
      | room + 2, some name =>
        ⟨identifier, t.value, time⟩ :: ⟨name, Amount.ofConfidence t.minConfidence, time⟩ ::
          collect time room rest

/-- At most `limit` readings. -/
def emit [Amount α] (r : Readings α) (limit : Nat) (time : Timestamp) : List (Reading α) :=
  collect time limit r.entries

end Readings
end MeterSight
