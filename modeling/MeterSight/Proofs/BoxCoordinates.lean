import Mathlib.Data.List.Forall2
import MeterSight.Settings.Meaning

/-!
# Coordinates of boxes

A coordinate gives an end of a stretch if it lies between zero and the largest one; with any other
the side is open. A box is refused if both ends are given along an axis and the far one lies before
the near one, and for no other reason. A region is refused for its box or for its name only.
-/
namespace MeterSight

/-- How a check of settings ends: with something they describe if they are sound, and else with one
of their faults. -/
inductive Verdict {α : Type} (sound : Prop) (describes : α → Prop) (fault : ConfigError → Prop) :
    Except ConfigError α → Prop where
  | accepted {a : α} : sound → describes a → Verdict sound describes fault (.ok a)
  | refused {e : ConfigError} : ¬ sound → fault e → Verdict sound describes fault (.error e)

namespace Verdict
variable {α β : Type} {sound sound' : Prop} {describes describes' : α → Prop}
  {fault fault' : ConfigError → Prop} {x : Except ConfigError α}

theorem exists_ok_iff (h : Verdict sound describes fault x) : (∃ a, x = .ok a) ↔ sound := by
  cases h with
  | accepted good _ => simp [good]
  | refused bad _ => simp [bad]

theorem exists_error_iff (h : Verdict sound describes fault x) :
    (∃ e, x = .error e) ↔ ¬ sound := by
  cases h with
  | accepted good _ => simp [good]
  | refused bad _ => simp [bad]

theorem describes_of_ok (h : Verdict sound describes fault x) {a : α} (ok : x = .ok a) :
    describes a := by
  subst ok
  cases h
  assumption

theorem fault_of_error (h : Verdict sound describes fault x) {e : ConfigError}
    (error : x = .error e) : fault e := by
  subst error
  cases h
  assumption

theorem imp (h : Verdict sound describes fault x) (same : sound ↔ sound')
    (described : ∀ a, describes a → describes' a) (told : ∀ e, fault e → fault' e) :
    Verdict sound' describes' fault' x := by
  cases h with
  | accepted good d => exact .accepted (same.1 good) (described _ d)
  | refused bad f => exact .refused (fun good => bad (same.2 good)) (told _ f)

/-- One check after another. The second has to do only with what the first lets through. -/
theorem bind {describes' : β → Prop} {f : α → Except ConfigError β}
    (first : Verdict sound describes fault x)
    (second : ∀ a, describes a → Verdict sound' describes' fault' (f a)) :
    Verdict (sound ∧ sound') describes' (fun e => fault e ∨ fault' e) (x >>= f) := by
  cases first with
  | refused bad told => exact .refused (fun good => bad good.1) (.inl told)
  | @accepted a good described =>
    exact (second a described).imp (iff_and_self.2 fun _ => good) (fun _ d => d) fun _ => .inr

/-- One check after another, where it is known what the first makes. -/
theorem bind_eq {describes' : β → Prop} {f : α → Except ConfigError β} {a : α}
    (first : Verdict sound (· = a) fault x) (second : Verdict sound' describes' fault' (f a)) :
    Verdict (sound ∧ sound') describes' (fun e => fault e ∨ fault' e) (x >>= f) :=
  first.bind fun _ same => same ▸ second

/-- A last step that has nothing to refuse. -/
theorem bind_ok {describes' : β → Prop} {f : α → Except ConfigError β}
    (first : Verdict sound describes fault x)
    (last : ∀ a, describes a → ∃ b, f a = .ok b ∧ describes' b) :
    Verdict sound describes' fault (x >>= f) := by
  cases first with
  | refused bad told => exact .refused bad told
  | @accepted a good described =>
    obtain ⟨b, made, described'⟩ := last a described
    show Verdict sound describes' fault (f a)
    rw [made]
    exact .accepted good described'

/-- A list is checked member by member, up to the first fault. -/
theorem mapM {f : β → Except ConfigError α} {sound : β → Prop} {describes : β → α → Prop}
    {fault : β → ConfigError → Prop}
    (each : ∀ b, Verdict (sound b) (describes b) (fault b) (f b)) (l : List β) :
    Verdict (∀ b ∈ l, sound b) (List.Forall₂ describes l) (fun e => ∃ b ∈ l, fault b e)
      (l.mapM f) := by
  induction l with
  | nil => exact .accepted (by simp) .nil
  | cons b more ih =>
    rw [List.mapM_cons]
    have members := (each b).bind fun a described => ih.bind_ok fun rest others =>
      ⟨a :: rest, rfl, List.Forall₂.cons described others⟩
    exact members.imp List.forall_mem_cons.symm (fun _ all => all) (by simp)

end Verdict

/-! ## Ends and boxes -/

/-- A coordinate that gives an end. -/
def GivesEnd (v : Int) : Prop := 0 ≤ v ∧ v ≤ Region.maxCoordinate

instance (v : Int) : Decidable (GivesEnd v) := inferInstanceAs (Decidable (_ ∧ _))

/-- Both coordinates give an end, and the far one lies before the near one. -/
def Inverted (near far : Int) : Prop := GivesEnd near ∧ GivesEnd far ∧ far < near

instance (near far : Int) : Decidable (Inverted near far) :=
  inferInstanceAs (Decidable (_ ∧ _ ∧ _))

theorem openEnd_of_givesEnd {v : Int} (h : GivesEnd v) : openEnd v = some v.toNat := if_pos h

theorem openEnd_of_not_givesEnd {v : Int} (h : ¬ GivesEnd v) : openEnd v = none := if_neg h

theorem openEnd_eq_none_iff {v : Int} : openEnd v = none ↔ ¬ GivesEnd v := by
  by_cases h : GivesEnd v
  · simp [openEnd_of_givesEnd h, h]
  · simp [openEnd_of_not_givesEnd h, h]

theorem openEnd_eq_some_iff {v : Int} {n : Nat} : openEnd v = some n ↔ GivesEnd v ∧ v = n := by
  by_cases h : GivesEnd v
  · rw [openEnd_of_givesEnd h, Option.some_inj]
    have := h.1
    constructor
    · intro same
      exact ⟨h, by omega⟩
    · intro same
      omega
  · simp [openEnd_of_not_givesEnd h, h]

theorem toNat_le_toNat_iff {near far : Int} (hn : GivesEnd near) (hf : GivesEnd far) :
    near.toNat ≤ far.toNat ↔ ¬ Inverted near far := by
  have := hn.1
  have := hf.1
  simp only [Inverted, hn, hf, true_and]
  omega

theorem Span.verdict_ofEnds? (identifier : String) (axis : Axis) (near far : Int) :
    Verdict (¬ Inverted near far) (fun s => s.1 = ⟨openEnd near, openEnd far⟩)
      (fun e => Inverted near far ∧ e = .invertedBox identifier axis near.toNat far.toNat)
      (ofEnds? identifier axis near far) := by
  unfold ofEnds?
  by_cases hn : GivesEnd near
  · by_cases hf : GivesEnd far
    · simp only [openEnd_of_givesEnd hn, openEnd_of_givesEnd hf]
      have ends := toNat_le_toNat_iff hn hf
      split
      next le => exact .accepted (ends.1 le) rfl
      next less =>
        have inverted : Inverted near far := not_not.1 fun h => less (ends.2 h)
        exact .refused (not_not.2 inverted) ⟨inverted, rfl⟩
    · simp only [openEnd_of_givesEnd hn, openEnd_of_not_givesEnd hf]
      exact .accepted (fun inverted => hf inverted.2.1) rfl
  · simp only [openEnd_of_not_givesEnd hn]
    exact .accepted (fun inverted => hn inverted.1) rfl

namespace Region

/-- A region is another one that is restricted to a box. -/
structure IsBoxed (r : Region) (x₁ y₁ x₂ y₂ : Int) (g : Region) : Prop where
  identifier : g.identifier = r.identifier
  confidenceId : g.confidenceId = r.confidenceId
  scaler : g.scaler = r.scaler
  digit : g.digit = r.digit
  bounds : g.bounds = ⟨⟨openEnd x₁, openEnd x₂⟩, ⟨openEnd y₁, openEnd y₂⟩⟩

theorem verdict_withBox (r : Region) (x₁ y₁ x₂ y₂ : Int) :
    Verdict (¬ Inverted x₁ x₂ ∧ ¬ Inverted y₁ y₂) (r.IsBoxed x₁ y₁ x₂ y₂)
      (fun e => Inverted x₁ x₂ ∧ e = .invertedBox r.identifier .horizontal x₁.toNat x₂.toNat ∨
        Inverted y₁ y₂ ∧ e = .invertedBox r.identifier .vertical y₁.toNat y₂.toNat)
      (r.withBox x₁ y₁ x₂ y₂) := by
  have horizontal := Span.verdict_ofEnds? r.identifier .horizontal x₁ x₂
  have vertical := Span.verdict_ofEnds? r.identifier .vertical y₁ y₂
  refine horizontal.bind ?_
  rintro ⟨h, hx⟩ rfl
  refine vertical.bind_ok ?_
  rintro ⟨v, hy⟩ rfl
  exact ⟨_, rfl, rfl, rfl, rfl, rfl, rfl⟩

end Region

/-! ## Regions -/

namespace RegionSettings

/-- A region with a name and no inverted box. -/
structure Sound (s : RegionSettings) : Prop where
  identifier : ∃ identifier ∈ s.identifier, identifier ≠ ""
  horizontal : ∀ box ∈ s.box, ¬ Inverted box.x1.toInt box.x2.toInt
  vertical : ∀ box ∈ s.box, ¬ Inverted box.y1.toInt box.y2.toInt

/-- What can be wrong with a region. -/
inductive Fault (s : RegionSettings) : ConfigError → Prop where
  | missingIdentifier : s.identifier = none → Fault s .missingIdentifier
  | emptyIdentifier : s.identifier = some "" → Fault s .emptyIdentifier
  | horizontal {identifier box} : s.identifier = some identifier → s.box = some box →
      Inverted box.x1.toInt box.x2.toInt →
      Fault s (.invertedBox identifier .horizontal box.x1.toInt.toNat box.x2.toInt.toNat)
  | vertical {identifier box} : s.identifier = some identifier → s.box = some box →
      Inverted box.y1.toInt box.y2.toInt →
      Fault s (.invertedBox identifier .vertical box.y1.toInt.toNat box.y2.toInt.toNat)

/-- The box that is meant. Without one all sides are open. -/
def bounds (s : RegionSettings) : Bounds :=
  let box := s.box.getD .allOpen
  ⟨⟨openEnd box.x1.toInt, openEnd box.x2.toInt⟩, ⟨openEnd box.y1.toInt, openEnd box.y2.toInt⟩⟩

/-- A region is the one that the settings describe. -/
structure Describes (s : RegionSettings) (region : Region) : Prop where
  identifier : s.identifier = some region.identifier
  confidenceId : region.confidenceId = s.confidenceId.filter (· ≠ "")
  scaler : region.scaler = s.scaler.toInt
  digit : region.digit = s.digit
  bounds : region.bounds = s.bounds

/-- An axis is inverted just if it is so in the box that is given. -/
theorem inverted_getD_iff (s : RegionSettings) (near far : BoxSettings → Int64)
    (open' : ¬ Inverted (near .allOpen).toInt (far .allOpen).toInt) :
    Inverted (near (s.box.getD .allOpen)).toInt (far (s.box.getD .allOpen)).toInt ↔
      ∃ box, s.box = some box ∧ Inverted (near box).toInt (far box).toInt := by
  cases s.box with
  | none => simpa using open'
  | some box => simp

theorem verdict_region (s : RegionSettings) : Verdict s.Sound s.Describes s.Fault s.region := by
  unfold region
  rcases given : s.identifier with _ | identifier
  · exact .refused (fun sound => by simpa [given] using sound.identifier) (.missingIdentifier given)
  by_cases name : identifier = ""
  · subst name
    exact .refused (fun sound => by simpa [given] using sound.identifier) (.emptyIdentifier given)
  have horizontal := s.inverted_getD_iff BoxSettings.x1 BoxSettings.x2 (by decide)
  have vertical := s.inverted_getD_iff BoxSettings.y1 BoxSettings.y2 (by decide)
  simp only [Region.whole?, name, ↓reduceDIte]
  refine (Region.verdict_withBox _ _ _ _ _).imp ?_ ?_ ?_
  · rw [horizontal, vertical]
    constructor
    · rintro ⟨upright, level⟩
      exact ⟨⟨identifier, given, name⟩, fun box boxed inverted => upright ⟨box, boxed, inverted⟩,
        fun box boxed inverted => level ⟨box, boxed, inverted⟩⟩
    · intro sound
      exact ⟨fun ⟨box, boxed, inverted⟩ => sound.horizontal box boxed inverted,
        fun ⟨box, boxed, inverted⟩ => sound.vertical box boxed inverted⟩
  · intro g boxed
    exact ⟨given.trans (congrArg some boxed.identifier.symm), boxed.confidenceId, boxed.scaler,
      boxed.digit, boxed.bounds⟩
  · rintro e (⟨inverted, rfl⟩ | ⟨inverted, rfl⟩)
    · obtain ⟨box, boxed, inverted⟩ := horizontal.1 inverted
      rw [boxed]
      exact .horizontal given boxed inverted
    · obtain ⟨box, boxed, inverted⟩ := vertical.1 inverted
      rw [boxed]
      exact .vertical given boxed inverted

end RegionSettings
end MeterSight
