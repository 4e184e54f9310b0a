import MeterSight.Proofs.Double

/-!
# Signs of doubles

What becomes of the sign when doubles are added, multiplied or read off a numeral, and when the
result is no number at all: a sum of numbers is one unless infinities cancel, and sums and products
of numbers without a minus sign have none.
-/
namespace MeterSight
open Float.Model Float.Model.UnpackedFloat

/-! ## Any format -/

/-- The sign of what is a number. -/
def numberSign? : UnpackedFloat → Option Sign
  | .notANumber => none
  | .infinity s | .zero s | .finite s _ _ _ => some s

section
variable {f : Format}

theorem zero_ne_neg_one {w : Nat} (h : 0 < w) : (0 : BitVec w) ≠ -1#w := by
  have size : 2 ≤ 2 ^ w := Nat.le_self_pow (by omega) 2
  rw [ne_eq, BitVec.neg_one_eq_allOnes, ← BitVec.toNat_inj, BitVec.toNat_allOnes]
  simp
  omega

theorem ofBitVec_toBitVec (s : Sign) : Sign.ofBitVec s.toBitVec = s := by
  cases s <;> rfl

theorem unpackSign_packComponents (s : Sign) (e : BitVec f.exponentBits)
    (m : BitVec f.mantissaBitsWithoutImplicit) :
    unpackSign (packComponents f s e m) = s.toBitVec := by
  ext i hi
  obtain rfl : i = 0 := by omega
  simp [unpackSign, packComponents, BitVec.getLsbD_append, BitVec.getLsbD_eq_getElem,
    BitVec.getElem_append]

theorem numberSign?_unpack_packComponents (s : Sign) {e : BitVec f.exponentBits}
    (m : BitVec f.mantissaBitsWithoutImplicit) (h : e ≠ -1#_) :
    numberSign? (UnpackedFloat.unpack f (packComponents f s e m)) = some s := by
  simp only [UnpackedFloat.unpack, unpackExponent_packComponents, unpackMantissa_packComponents,
    unpackSign_packComponents, ofBitVec_toBitVec, if_neg h]
  split
  · split <;> rfl
  · rfl

theorem numberSign?_unpack_packedInfinity (s : Sign) :
    numberSign? (UnpackedFloat.unpack f (packedInfinity f s)) = some s := by
  simp only [UnpackedFloat.unpack, packedInfinity, unpackExponent_packComponents,
    unpackMantissa_packComponents, unpackSign_packComponents, ofBitVec_toBitVec, if_true]
  rfl

theorem numberSign?_unpack_packedNaN :
    numberSign? (UnpackedFloat.unpack f (packedNaN f)) = none := by
  have size := f.hm
  have quiet : 1#_ <<< (f.mantissaBitsWithoutImplicit - 1) ≠ 0#f.mantissaBitsWithoutImplicit := by
    have bound := Nat.pow_lt_pow_right (a := 2) (by decide) (Nat.sub_lt size Nat.one_pos)
    rw [ne_eq, ← BitVec.toNat_inj]
    simp [Nat.shiftLeft_eq, Nat.mod_eq_of_lt bound]
  simp only [UnpackedFloat.unpack, packedNaN, unpackExponent_packComponents,
    unpackMantissa_packComponents, if_true, if_neg quiet]
  rfl

/-- Packing keeps what is a number, and its sign. -/
theorem numberSign?_unpack_pack (f : Format) (u : UnpackedFloat) :
    numberSign? (UnpackedFloat.unpack f (UnpackedFloat.pack f u)) = numberSign? u := by
  cases u with
  | notANumber => exact numberSign?_unpack_packedNaN
  | infinity s => exact numberSign?_unpack_packedInfinity s
  | zero s => exact numberSign?_unpack_packComponents s _ (zero_ne_neg_one f.he)
  | finite s m e h =>
    rw [UnpackedFloat.pack]
    split
    · exact numberSign?_unpack_packedInfinity s
    next fits =>
    split
    · refine numberSign?_unpack_packComponents s _ fun top => fits ?_
      rw [BitVec.neg_one_eq_allOnes, ← BitVec.toNat_inj, BitVec.toNat_allOnes,
        BitVec.toNat_ofNat] at top
      have := Nat.mod_le (e + f.exponentBias + f.mantissaBitsWithoutImplicit).toNat
        (2 ^ f.exponentBits)
      omega
    · exact numberSign?_unpack_packComponents s _ (zero_ne_neg_one f.he)

theorem numberSign?_roundWithAccuracy (s : Sign) (m : Nat) (e : Int) (a : Accuracy) :
    numberSign? (roundWithAccuracy f s m e a) = some s := by
  simp only [roundWithAccuracy]
  split <;> rfl

theorem exists_numberSign?_normalize (m : Int) (e : Int) (s : Sign) :
    ∃ t, numberSign? (UnpackedFloat.normalize f m e s) = some t := by
  unfold UnpackedFloat.normalize
  split
  · exact ⟨_, numberSign?_roundWithAccuracy ..⟩
  · exact ⟨_, rfl⟩
  · exact ⟨_, numberSign?_roundWithAccuracy ..⟩

theorem numberSign?_normalize_of_nonneg {m : Int} (h : 0 ≤ m) (e : Int) :
    numberSign? (UnpackedFloat.normalize f m e .positive) = some .positive := by
  unfold UnpackedFloat.normalize
  split
  next less => exact absurd (Int.compare_eq_lt.1 less) (by omega)
  · rfl
  · exact numberSign?_roundWithAccuracy ..

theorem numberSign?_mul_finite (u : UnpackedFloat) (s : Sign) (m : Nat) (e : Int) (h : 0 < m) :
    numberSign? (u.mul f (.finite s m e h)) = (numberSign? u).map (· * s) := by
  cases u with
  | finite => exact numberSign?_roundWithAccuracy ..
  | _ => rfl

theorem numberSign?_div_finite (u : UnpackedFloat) (s : Sign) (m : Nat) (e : Int) (h : 0 < m) :
    numberSign? (u.div f (.finite s m e h)) = (numberSign? u).map (· / s) := by
  cases u with
  | finite => exact numberSign?_roundWithAccuracy ..
  | _ => rfl

theorem numberSign?_ofScientific (m : Nat) (e : Int) :
    numberSign? (UnpackedFloat.ofScientific f m e) = some .positive := by
  unfold UnpackedFloat.ofScientific
  split
  · rfl
  split
  · rfl
  split
  · rfl
  split <;> exact numberSign?_roundWithAccuracy ..

end

/-! ## Doubles -/

/-- The sign of a double that is a number. -/
def sign? (x : Float) : Option Sign := numberSign? x.toModel.unpack

theorem isNaN_eq_false_iff {x : Float} : x.isNaN = false ↔ ∃ s, sign? x = some s := by
  show x.toModel.unpack.isNaN = false ↔ _
  unfold sign?
  cases x.toModel.unpack <;> simp [numberSign?, UnpackedFloat.isNaN]

theorem sign?_add (x y : Float) :
    sign? (x + y) = numberSign? (x.toModel.unpack.add .binary64 y.toModel.unpack) :=
  numberSign?_unpack_pack .binary64 _

theorem sign?_mul (x y : Float) :
    sign? (x * y) = numberSign? (x.toModel.unpack.mul .binary64 y.toModel.unpack) :=
  numberSign?_unpack_pack .binary64 _

/-- Only infinities can cancel to what is no number. -/
theorem isNaN_add_of_isFinite {x y : Float} (hx : x.isNaN = false) (hy : y.isFinite = true) :
    (x + y).isNaN = false := by
  rw [isNaN_eq_false_iff, sign?_add]
  change x.toModel.unpack.isNaN = false at hx
  change y.toModel.unpack.isFinite = true at hy
  generalize x.toModel.unpack = u at *
  generalize y.toModel.unpack = v at *
  cases u <;> cases v <;> try contradiction
  case finite.finite => exact exists_numberSign?_normalize ..
  case zero.zero s t => cases s <;> cases t <;> exact ⟨_, rfl⟩
  all_goals exact ⟨_, rfl⟩

theorem sign?_add_of_positive {x y : Float} (hx : sign? x = some .positive)
    (hy : sign? y = some .positive) : sign? (x + y) = some .positive := by
  rw [sign?_add]
  unfold sign? at hx hy
  generalize x.toModel.unpack = u at *
  generalize y.toModel.unpack = v at *
  cases u <;> cases v <;> cases hx <;> cases hy
  case finite.finite m e h k f h' => exact numberSign?_normalize_of_nonneg (Int.natCast_nonneg _) _
  all_goals rfl

theorem sign?_mul_of_finite {x y : Float} {s : Sign} {m : Nat} {e : Int} {h : 0 < m}
    (hy : y.toModel.unpack = .finite s m e h) : sign? (x * y) = (sign? x).map (· * s) := by
  rw [sign?_mul, hy, numberSign?_mul_finite, sign?]

theorem exists_unpack_of_pos {x : Float} (hx : 0.0 < x) (finite : x.isFinite = true) :
    ∃ m e h, x.toModel.unpack = .finite .positive m e h := by
  have zero : rank 0.0 = 0 := by decide +kernel
  rw [lt_iff_rank_lt (by decide +kernel) (isNaN_eq_false_of_isFinite finite), zero, rank] at hx
  have shape := unpacks_toModel x
  change x.toModel.unpack.isFinite = true at finite
  generalize x.toModel.unpack = u at *
  generalize signOf x = s at *
  cases shape with
  | notANumber => contradiction
  | infinity => contradiction
  | zero none => cases s <;> simp [none, Sign.apply] at hx
  | finite =>
    cases s with
    | positive => exact ⟨_, _, _, rfl⟩
    | negative =>
      simp only [Sign.apply] at hx
      omega

theorem exists_unpack_powerOfTen {e : Nat} (h : e < Float.exactlyRepresentablePowersOfTen.size) :
    ∃ m f k, Float.exactlyRepresentablePowersOfTen[e].toModel.unpack =
      .finite .positive m f k := by
  have all : ∀ x ∈ Float.exactlyRepresentablePowersOfTen.toList, 0.0 < x ∧ x.isFinite = true := by
    decide +kernel
  obtain ⟨pos, finite⟩ := all _ (Array.getElem_mem_toList h)
  exact exists_unpack_of_pos pos finite

theorem sign?_toFloat (n : UInt64) : sign? n.toFloat = some .positive :=
  (numberSign?_unpack_pack .binary64 _).trans
    (numberSign?_normalize_of_nonneg (Int.natCast_nonneg _) _)

theorem sign?_div_of_finite {x y : Float} {s : Sign} {m : Nat} {e : Int} {h : 0 < m}
    (hy : y.toModel.unpack = .finite s m e h) : sign? (x / y) = (sign? x).map (· / s) := by
  have quotient : sign? (x / y) = numberSign? (x.toModel.unpack.div .binary64 y.toModel.unpack) :=
    numberSign?_unpack_pack .binary64 _
  rw [quotient, hy, numberSign?_div_finite, sign?]

theorem sign?_ofScientific (m : Nat) (s : Bool) (e : Nat) :
    sign? (Float.ofScientific m s e) = some .positive := by
  unfold Float.ofScientific
  split
  next small =>
    have size : Float.exactlyRepresentablePowersOfTen.size = 23 := rfl
    obtain ⟨k, f, h, power⟩ := exists_unpack_powerOfTen (e := e) (by omega)
    cases s
    · exact (sign?_mul_of_finite power).trans (by rw [sign?_toFloat]; rfl)
    · exact (sign?_div_of_finite power).trans (by rw [sign?_toFloat]; rfl)
  · exact (numberSign?_unpack_pack .binary64 _).trans (numberSign?_ofScientific ..)

theorem sign?_toFloat_of_negative_eq_false {n : Decimal.Numeral} (h : n.negative = false) :
    sign? n.toFloat = some .positive := by
  rw [Decimal.Numeral.toFloat, h, if_neg Bool.false_ne_true, Decimal.Numeral.absFloat]
  split
  · exact sign?_ofScientific ..
  split
  · rfl
  · exact sign?_ofScientific ..

end MeterSight
