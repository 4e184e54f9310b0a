import MeterSight.Proofs.DoubleSign
import MeterSight.Proofs.LongestNumber

/-!
# Signs in single precision

Rounding a numeral to single precision may make it zero or infinite, but never takes it below zero.
-/
namespace MeterSight
open Float.Model Float.Model.UnpackedFloat Decimal

/-- Above zero, and neither infinite nor no number. -/
def IsPositive : UnpackedFloat → Prop
  | .finite .positive .. => True
  | _ => False

instance : DecidablePred IsPositive
  | .finite .positive .. => .isTrue trivial
  | .finite .negative .. | .infinity _ | .notANumber | .zero _ => .isFalse id

theorem IsPositive.exists_eq {u : UnpackedFloat} (h : IsPositive u) :
    ∃ m e k, u = .finite .positive m e k := by
  match u, h with
  | .finite .positive m e k, _ => exact ⟨m, e, k, rfl⟩

theorem isPositive_powerOfTen {e : Nat} (h : e < Float32.exactlyRepresentablePowersOfTen.size) :
    IsPositive Float32.exactlyRepresentablePowersOfTen[e].toModel.unpack := by
  have all : ∀ x ∈ Float32.exactlyRepresentablePowersOfTen.toList,
      IsPositive x.toModel.unpack := by
    decide +kernel
  exact all _ (Array.getElem_mem_toList h)

theorem numberSign?_toFloat32 (n : UInt64) :
    numberSign? n.toFloat32.toModel.unpack = some .positive :=
  (numberSign?_unpack_pack .binary32 _).trans
    (numberSign?_normalize_of_nonneg (Int.natCast_nonneg _) _)

theorem numberSign?_single_ofScientific (m : Nat) (s : Bool) (e : Nat) :
    numberSign? (Float32.ofScientific m s e).toModel.unpack = some .positive := by
  unfold Float32.ofScientific
  split
  next small =>
    have size : Float32.exactlyRepresentablePowersOfTen.size = 11 := rfl
    obtain ⟨k, f, h, power⟩ := (isPositive_powerOfTen (e := e) (by omega)).exists_eq
    have whole := numberSign?_toFloat32 m.toUInt64
    cases s
    · refine (numberSign?_unpack_pack .binary32 _).trans ?_
      rw [power, numberSign?_mul_finite, whole]
      rfl
    · refine (numberSign?_unpack_pack .binary32 _).trans ?_
      rw [power, numberSign?_div_finite, whole]
      rfl
  · exact (numberSign?_unpack_pack .binary32 _).trans (numberSign?_ofScientific ..)

theorem numberSign?_absSingle (n : Numeral) :
    numberSign? n.absSingle.toModel.unpack = some .positive := by
  unfold Numeral.absSingle
  split
  · exact numberSign?_single_ofScientific ..
  split
  · rfl
  · exact numberSign?_single_ofScientific ..

theorem sign?_widen (x : Float32) : sign? (widen x) = numberSign? x.toModel.unpack := by
  refine (numberSign?_unpack_pack .binary64 _).trans ?_
  cases x.toModel.unpack with
  | finite => exact numberSign?_roundWithAccuracy ..
  | _ => rfl

theorem zero_le_of_sign? {x : Float} (h : sign? x = some .positive) : 0.0 ≤ x := by
  have zero : (0.0 : Float).toModel.unpack = .zero .positive := rfl
  show decide (((0.0 : Float).toModel.unpack.compare x.toModel.unpack).any (·.isLE) = true) = true
  rw [zero]
  unfold sign? at h
  generalize x.toModel.unpack = u at h
  cases u <;> cases h <;> rfl

theorem not_lt_zero_of_zero_le {c : Float} (h : 0.0 ≤ c) : ¬ c < 0.0 := by
  intro below
  have zero : (0.0 : Float).toModel.unpack = .zero .positive := rfl
  change decide (((0.0 : Float).toModel.unpack.compare c.toModel.unpack).any (·.isLE) = true) = true
    at h
  change decide ((c.toModel.unpack.compare (0.0 : Float).toModel.unpack == some .lt) = true) = true
    at below
  rw [zero] at h below
  generalize c.toModel.unpack = u at h below
  cases u with
  | notANumber => cases below
  | zero s => cases s <;> cases below
  | infinity s =>
    cases s with
    | positive => cases below
    | negative => cases h
  | finite s =>
    cases s with
    | positive => cases below
    | negative => cases h

/-- A number that is not below zero does not come to lie there. -/
theorem zero_le_toSingle {n : Numeral} (h : 0 ≤ n.toRat) : 0.0 ≤ n.toSingle := by
  by_cases negative : n.negative = true
  · have none : n.mantissa = 0 := by
      by_contra some
      have size : (0 : ℚ) < n.mantissa * 10 ^ n.exponent := by positivity
      rw [Numeral.toRat, if_pos negative] at h
      linarith
    rw [Numeral.toSingle, if_pos negative, Numeral.absSingle, if_pos (.inl none)]
    decide +kernel
  · rw [Numeral.toSingle, if_neg negative]
    apply zero_le_of_sign?
    rw [sign?_widen, numberSign?_absSingle]

end MeterSight
