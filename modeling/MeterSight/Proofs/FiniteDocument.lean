import Mathlib.Data.List.Forall2
import MeterSight.Proofs.FiniteDouble
import MeterSight.Settings.Document

/-!
# Finite documents

No number of a document that is read from a JSON text is infinite or no number at all, and whole
ones have 64 bits.
-/
namespace MeterSight
open Json

/-- All doubles have a property, and all whole numbers have 64 bits. What cannot be written in JSON
is there only if the property is taken loosely. -/
inductive Document.Holds (P : Float → Prop) (loose : Prop) : Document → Prop
  | null : Holds P loose .null
  | bool (b : Bool) : Holds P loose (.bool b)
  | integer {n : Int} (low : -2 ^ 63 ≤ n) (high : n < 2 ^ 64) : Holds P loose (.integer n)
  | float {x : Float} (h : P x) : Holds P loose (.float x)
  | string (s : String) : Holds P loose (.string s)
  | dateTime (h : loose) : Holds P loose .dateTime
  | unusable (h : loose) : Holds P loose .unusable
  | array {items : List Document} (h : ∀ d ∈ items, d.Holds P loose) : Holds P loose (.array items)
  | table {fields : List (String × Document)} (h : ∀ e ∈ fields, e.2.Holds P loose) :
      Holds P loose (.table fields)

/-- All numbers are finite, and the whole ones have 64 bits. -/
abbrev Document.IsFinite (d : Document) : Prop := d.Holds (fun x => x.isFinite = true) True

theorem mapM_eq_some_iff_forall₂ {α β : Type} {f : α → Option β} {l : List α} {found : List β} :
    l.mapM f = some found ↔ List.Forall₂ (fun a b => f a = some b) l found := by
  induction l generalizing found with
  | nil => simp [eq_comm]
  | cons a rest ih =>
    rw [List.mapM_cons, List.forall₂_cons_left_iff]
    constructor
    · intro eq
      obtain ⟨b, first, eq⟩ := Option.bind_eq_some_iff.1 eq
      obtain ⟨more, others, eq⟩ := Option.bind_eq_some_iff.1 eq
      exact ⟨b, more, first, ih.1 others, (Option.some.inj eq).symm⟩
    · rintro ⟨b, more, first, others, rfl⟩
      rw [first, ih.2 others]
      rfl

theorem mapM_map_eq_some {α β : Type} {f : β → Option α} {g : α → β}
    (back : ∀ a, f (g a) = some a) (l : List α) : (l.map g).mapM f = some l := by
  rw [mapM_eq_some_iff_forall₂, List.forall₂_map_left_iff, List.forall₂_same]
  exact fun a _ => back a

theorem exists_of_mem_forall₂ {α β : Type} {R : α → β → Prop} {l : List α} {found : List β}
    (h : List.Forall₂ R l found) {b : β} (mem : b ∈ found) : ∃ a ∈ l, R a b := by
  induction h with
  | nil => cases mem
  | cons first _ ih =>
    rcases List.mem_cons.1 mem with rfl | mem
    · exact ⟨_, List.mem_cons_self, first⟩
    · obtain ⟨a, own, related⟩ := ih mem
      exact ⟨a, List.mem_cons_of_mem _ own, related⟩

/-- A reader of values whose documents are finite. -/
def YieldsFinite (value : List Char → Option (Document × List Char)) : Prop :=
  ∀ {cs d rest}, value cs = some (d, rest) → d.IsFinite

theorem isFinite_toDocument (t : NumberText) : t.toDocument.IsFinite := by
  unfold NumberText.toDocument
  dsimp only
  split
  · next whole =>
    have bound : Text.naturalOf t.whole ≤ 18446744073709551615 := whole.2.2.2
    exact .integer (by omega) (by omega)
  split
  · next whole =>
    have bound : Text.naturalOf t.whole ≤ 9223372036854775807 + 1 := whole.2.2.2.2
    exact .integer (by omega) (by omega)
  · cases read : t.toFloat? with
    | none => exact .unusable trivial
    | some x => exact .float (isFinite_of_toFloat? read)

theorem yieldsFinite_readNumber (negative : Bool) : YieldsFinite (readNumber negative) := by
  intro cs d rest eq
  unfold readNumber at eq
  dsimp only at eq
  split at eq
  · cases eq
  · obtain ⟨⟨fraction, afterFraction⟩, -, eq⟩ := Option.bind_eq_some_iff.1 eq
    obtain ⟨⟨exponent, afterExponent⟩, -, eq⟩ := Option.bind_eq_some_iff.1 eq
    obtain ⟨rfl, rfl⟩ := Prod.mk.inj (Option.some.inj eq)
    exact isFinite_toDocument _

section
variable {value : List Char → Option (Document × List Char)} (yields : YieldsFinite value)
include yields

theorem isFinite_of_readItems {fuel : Nat} {cs rest : List Char} {items : List Document}
    (eq : readItems value fuel cs = some (items, rest)) : ∀ d ∈ items, d.IsFinite := by
  induction fuel generalizing cs items rest with
  | zero => cases eq
  | succ fuel ih =>
    rw [readItems] at eq
    obtain ⟨⟨item, more⟩, read, eq⟩ := Option.bind_eq_some_iff.1 eq
    dsimp only at eq
    split at eq
    · obtain ⟨⟨items, rest⟩, others, eq⟩ := Option.bind_eq_some_iff.1 eq
      obtain ⟨rfl, rfl⟩ := Prod.mk.inj (Option.some.inj eq)
      exact List.forall_mem_cons.2 ⟨yields read, ih others⟩
    · obtain ⟨rfl, rfl⟩ := Prod.mk.inj (Option.some.inj eq)
      exact List.forall_mem_singleton.2 (yields read)
    · cases eq

theorem isFinite_of_readField {cs rest : List Char} {field : Option String × Document}
    (eq : readField value cs = some (field, rest)) : field.2.IsFinite := by
  unfold readField at eq
  split at eq
  · obtain ⟨⟨name, more⟩, -, eq⟩ := Option.bind_eq_some_iff.1 eq
    dsimp only at eq
    split at eq
    · obtain ⟨⟨item, rest⟩, read, eq⟩ := Option.bind_eq_some_iff.1 eq
      obtain ⟨rfl, rfl⟩ := Prod.mk.inj (Option.some.inj eq)
      exact yields read
    · cases eq
  · cases eq

theorem isFinite_of_readFields {fuel : Nat} {cs rest : List Char}
    {fields : List (Option String × Document)}
    (eq : readFields value fuel cs = some (fields, rest)) : ∀ e ∈ fields, e.2.IsFinite := by
  induction fuel generalizing cs fields rest with
  | zero => cases eq
  | succ fuel ih =>
    rw [readFields] at eq
    obtain ⟨⟨field, more⟩, read, eq⟩ := Option.bind_eq_some_iff.1 eq
    dsimp only at eq
    split at eq
    · obtain ⟨⟨fields, rest⟩, others, eq⟩ := Option.bind_eq_some_iff.1 eq
      obtain ⟨rfl, rfl⟩ := Prod.mk.inj (Option.some.inj eq)
      exact List.forall_mem_cons.2 ⟨isFinite_of_readField yields read, ih others⟩
    · obtain ⟨rfl, rfl⟩ := Prod.mk.inj (Option.some.inj eq)
      exact List.forall_mem_singleton.2 (isFinite_of_readField yields read)
    · cases eq

end

theorem isFinite_object {fields : List (Option String × Document)}
    (finite : ∀ e ∈ fields, e.2.IsFinite) : (object fields).IsFinite := by
  unfold object
  split
  · next named eq =>
    refine .table fun e mem => ?_
    obtain ⟨field, own, eq⟩ := exists_of_mem_forall₂ (mapM_eq_some_iff_forall₂.1 eq) mem
    obtain ⟨name, -, rfl⟩ := Option.map_eq_some_iff.1 eq
    exact finite field own
  · exact .unusable trivial

theorem yieldsFinite_readValue (depth : Nat) : YieldsFinite (readValue depth) := by
  intro cs d rest eq
  induction depth generalizing cs d rest with
  | zero => cases eq
  | succ depth ih =>
    have word {name : String} {cs : List Char} {found : Document} (simple : found.IsFinite)
        (eq : (word? name cs).map (found, ·) = some (d, rest)) : d.IsFinite := by
      obtain ⟨more, -, same⟩ := Option.map_eq_some_iff.1 eq
      obtain ⟨rfl, rfl⟩ := Prod.mk.inj same
      exact simple
    rw [readValue.eq_def] at eq
    dsimp only at eq
    split at eq
    · obtain ⟨⟨text, more⟩, -, same⟩ := Option.map_eq_some_iff.1 eq
      obtain ⟨rfl, rfl⟩ := Prod.mk.inj same
      cases text with
      | none => exact .unusable trivial
      | some s => exact .string s
    · exact yieldsFinite_readNumber true eq
    · split at eq
      · obtain ⟨rfl, rfl⟩ := Prod.mk.inj (Option.some.inj eq)
        exact .array nofun
      · obtain ⟨⟨items, more⟩, read, same⟩ := Option.map_eq_some_iff.1 eq
        obtain ⟨rfl, rfl⟩ := Prod.mk.inj same
        exact .array (isFinite_of_readItems ih read)
    · split at eq
      · obtain ⟨rfl, rfl⟩ := Prod.mk.inj (Option.some.inj eq)
        exact .table nofun
      · obtain ⟨⟨fields, more⟩, read, same⟩ := Option.map_eq_some_iff.1 eq
        obtain ⟨rfl, rfl⟩ := Prod.mk.inj same
        exact isFinite_object (isFinite_of_readFields ih read)
    · exact word .null eq
    · exact word (.bool true) eq
    · exact word (.bool false) eq
    · exact yieldsFinite_readNumber false eq

theorem isFinite_of_read? {text : List Char} {d : Document} (eq : read? text = some d) :
    d.IsFinite := by
  obtain ⟨⟨d, rest⟩, read, eq⟩ := Option.bind_eq_some_iff.1 eq
  dsimp only at eq
  split at eq
  · obtain rfl := Option.some.inj eq
    exact yieldsFinite_readValue _ read
  · cases eq

end MeterSight
