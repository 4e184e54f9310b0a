import MeterSight.Document.Json
import MeterSight.Proofs.WholeDouble

/-!
# Finite doubles

Rounding moves the first digit of a number up by one place at most. So quotients of finite doubles
by numbers from four on are finite, and so is what the digits of a numeral of a document stand for.
-/
namespace MeterSight
open Float.Model Float.Model.UnpackedFloat

/-! ### Rounding -/

theorem mantissa_shiftRight (em : ExtendedMantissa) (k : Nat) :
    (em >>> k).mantissa = em.mantissa / 2 ^ k := by
  induction k with
  | zero => simp [HShiftRight.hShiftRight, Nat.repeat]
  | succ k ih =>
    show (em >>> k).mantissa / 2 = _
    rw [ih, Nat.div_div_eq_div_mul, Nat.pow_succ]

theorem mantissa_ofMantissaAndAccuracy (m : Nat) (a : Accuracy) :
    (ExtendedMantissa.ofMantissaAndAccuracy m a).mantissa = m := by
  rcases a with _ | (_ | _ | _) <;> rfl

theorem roundedMantissa_eq_or (em : ExtendedMantissa) :
    em.roundedMantissa = em.mantissa ∨ em.roundedMantissa = em.mantissa + 1 := by
  rcases em with ⟨m, _ | _, _ | _⟩
  · exact .inl rfl
  · exact .inl rfl
  · show m + m % 2 = m ∨ m + m % 2 = m + 1
    omega
  · exact .inr rfl

/-- How many places are dropped from a mantissa before it is rounded. -/
def droppedPlaces (m : Nat) (e : Int) : Nat :=
  (Format.binary64.targetExponent (totalExponent m e) - e).toNat

theorem targetExponent_totalExponent (m : Nat) (e : Int) :
    Format.binary64.targetExponent (totalExponent m e) = max (m.log2 + e - 52) (-1074) := by
  simp only [Format.targetExponent, totalExponent, Format.mantissaBits, Format.minExponent]
  norm_num
  omega

theorem droppedPlaces_eq (m : Nat) (e : Int) :
    droppedPlaces m e = (max (m.log2 + e - 52) (-1074) - e).toNat := by
  rw [droppedPlaces, targetExponent_totalExponent]

/-- Rounding drops places, and another one if counting up made a new one. -/
theorem roundWithAccuracy_eq (s : Sign) (m : Nat) (e : Int) (a : Accuracy) :
    let k := droppedPlaces m e
    let r := (ExtendedMantissa.ofMantissaAndAccuracy m a >>> k).roundedMantissa
    let j := droppedPlaces r (e + k)
    roundWithAccuracy .binary64 s m e a =
      if h : r / 2 ^ j = 0 then .zero s
      else .finite s (r / 2 ^ j) (e + k + j) (Nat.pos_of_ne_zero h) := by
  intro k r j
  have second : (ExtendedMantissa.ofMantissaAndAccuracy r .exact >>> j).mantissa = r / 2 ^ j := by
    rw [mantissa_shiftRight, mantissa_ofMantissaAndAccuracy]
  simp only [← second]
  rfl

/-- The digits that are left may be counted up. -/
theorem exists_roundWithAccuracy (s : Sign) (m : Nat) (e : Int) (a : Accuracy) :
    let k := droppedPlaces m e
    ∃ r, (r = m / 2 ^ k ∨ r = m / 2 ^ k + 1) ∧
      let j := droppedPlaces r (e + k)
      roundWithAccuracy .binary64 s m e a =
        if h : r / 2 ^ j = 0 then .zero s
        else .finite s (r / 2 ^ j) (e + k + j) (Nat.pos_of_ne_zero h) := by
  intro k
  have digits : (ExtendedMantissa.ofMantissaAndAccuracy m a >>> k).mantissa = m / 2 ^ k := by
    rw [mantissa_shiftRight, mantissa_ofMantissaAndAccuracy]
  exact ⟨_, digits ▸ roundedMantissa_eq_or _, roundWithAccuracy_eq s m e a⟩

theorem log2_div_two_pow (m k : Nat) : (m / 2 ^ k).log2 = m.log2 - k := by
  rw [Nat.log2_eq_log_two, Nat.log2_eq_log_two, Nat.log_div_base_pow]

/-- Counting up makes one place more at most. -/
theorem log2_succ_le (n : Nat) : (n + 1).log2 ≤ n.log2 + 1 := by
  refine Nat.lt_succ_iff.1 ((Nat.log2_lt (Nat.succ_ne_zero n)).2 ?_)
  have bound := Nat.lt_log2_self (n := n)
  rw [Nat.pow_succ]
  omega

/-- Small enough for a double. -/
def FitsDouble : UnpackedFloat → Prop
  | .zero _ => True
  | .finite _ _ e _ => e ≤ 971
  | _ => False

theorem fitsDouble_roundWithAccuracy {m : Nat} {e : Int} (exponent : e ≤ 971)
    (size : m.log2 + e ≤ 1021) (s : Sign) (a : Accuracy) :
    FitsDouble (roundWithAccuracy .binary64 s m e a) := by
  obtain ⟨r, digits, eq⟩ := exists_roundWithAccuracy s m e a
  have places := droppedPlaces_eq m e
  have dropped := log2_div_two_pow m (droppedPlaces m e)
  have counted := log2_succ_le (m / 2 ^ droppedPlaces m e)
  have again := droppedPlaces_eq r (e + droppedPlaces m e)
  rw [eq]
  split
  · trivial
  · show e + droppedPlaces m e + _ ≤ 971
    obtain rfl | rfl := digits <;> omega

/-- A mantissa with enough digits is full after rounding. -/
theorem exists_roundWithAccuracy_of_full {m : Nat} {e : Int} (full : 52 ≤ m.log2)
    (low : -1022 ≤ m.log2 + e) (s : Sign) (a : Accuracy) :
    ∃ r f h, roundWithAccuracy .binary64 s m e a = .finite s r f h ∧ r.log2 = 52 ∧
      m.log2 + e ≤ 52 + f ∧ f ≤ m.log2 + e - 51 := by
  obtain ⟨r, digits, eq⟩ := exists_roundWithAccuracy s m e a
  have places := droppedPlaces_eq m e
  have dropped := log2_div_two_pow m (droppedPlaces m e)
  have counted := log2_succ_le (m / 2 ^ droppedPlaces m e)
  have grown : (m / 2 ^ droppedPlaces m e).log2 ≤ r.log2 := by
    obtain rfl | rfl := digits
    · exact Nat.le_refl _
    · rw [Nat.log2_eq_log_two, Nat.log2_eq_log_two]
      exact Nat.log_mono_right (Nat.le_succ _)
  have again := droppedPlaces_eq r (e + droppedPlaces m e)
  have width := log2_div_two_pow r (droppedPlaces r (e + droppedPlaces m e))
  have most : r.log2 ≤ 53 := by obtain rfl | rfl := digits <;> omega
  have last : (r / 2 ^ droppedPlaces r (e + droppedPlaces m e)).log2 = 52 := by omega
  have some : r / 2 ^ droppedPlaces r (e + droppedPlaces m e) ≠ 0 := by
    intro none
    rw [none] at last
    contradiction
  dsimp only at eq
  rw [dif_neg some] at eq
  exact ⟨_, _, _, eq, last, by omega, by omega⟩

/-! ### Packing -/

theorem isFinite_unpack_packComponents {f : Format} (s : Sign) {e : BitVec f.exponentBits}
    (m : BitVec f.mantissaBitsWithoutImplicit) (h : e ≠ -1#_) :
    (UnpackedFloat.unpack f (packComponents f s e m)).isFinite = true := by
  simp only [UnpackedFloat.unpack, unpackExponent_packComponents, unpackMantissa_packComponents,
    unpackSign_packComponents, ofBitVec_toBitVec, if_neg h]
  split
  · split <;> rfl
  · rfl

theorem isFinite_pack {u : UnpackedFloat} (fits : FitsDouble u) :
    (Float.ofModel (.pack u)).isFinite = true := by
  show (UnpackedFloat.unpack .binary64 (UnpackedFloat.pack .binary64 u)).isFinite = true
  match u, fits with
  | .zero s, _ => exact isFinite_unpack_packComponents s _ (zero_ne_neg_one (by decide))
  | .finite s m e _, high =>
    have high : e ≤ 971 := high
    have bias : (Format.binary64.exponentBias : Int) = 1023 := by decide
    have size : 2 ^ Format.binary64.exponentBits = 2048 := rfl
    have mantissa : (Format.binary64.mantissaBitsWithoutImplicit : Int) = 52 := rfl
    rw [UnpackedFloat.pack, if_neg (by rw [size, bias, mantissa]; omega)]
    split
    · refine isFinite_unpack_packComponents s _ fun top => ?_
      rw [BitVec.neg_one_eq_allOnes, ← BitVec.toNat_inj, BitVec.toNat_allOnes,
        BitVec.toNat_ofNat, bias, mantissa, size] at top
      have := Nat.mod_le (e + 1023 + 52).toNat 2048
      omega
    · exact isFinite_unpack_packComponents s _ (zero_ne_neg_one (by decide))

/-- What a finite double unpacks to is small enough to be packed again. -/
theorem fitsDouble_unpack {x : Float} (finite : x.isFinite = true) :
    FitsDouble x.toModel.unpack := by
  have bound := (isFinite_iff x).1 finite
  have infinite : infiniteMagnitude = 2047 * 2 ^ 52 := rfl
  have shape := unpacks_toModel x
  generalize x.toModel.unpack = u at *
  cases shape with
  | notANumber => omega
  | infinity => omega
  | zero => trivial
  | finite =>
    show _ ≤ _
    omega

/-! ### Quotients and products -/

theorem log2_div_add_le {n m : Nat} (some : n / m ≠ 0) : (n / m).log2 + m.log2 ≤ n.log2 := by
  have divisor : m ≠ 0 := by
    rintro rfl
    exact some (Nat.div_zero n)
  have part : n / m * m ≤ n := Nat.div_mul_le_self n m
  have product : n / m * m ≠ 0 := Nat.mul_ne_zero some divisor
  refine (Nat.le_log2 (by omega)).2 ?_
  rw [Nat.pow_add]
  exact (Nat.mul_le_mul (Nat.log2_self_le some) (Nat.log2_self_le divisor)).trans part

/-- A divisor from four on makes room for the rounding of the quotient. -/
theorem isFinite_div {x y : Float} (finite : x.isFinite = true) {s : Sign} {m : Nat} {e : Int}
    {h : 0 < m} (unpacked : y.toModel.unpack = .finite s m e h) (large : 2 ≤ m.log2 + e) :
    (x / y).isFinite = true := by
  have bound := (isFinite_iff x).1 finite
  have infinite : infiniteMagnitude = 2047 * 2 ^ 52 := rfl
  have shape := unpacks_toModel x
  show (Float.ofModel (.pack (x.toModel.unpack.div .binary64 y.toModel.unpack))).isFinite = true
  refine isFinite_pack ?_
  rw [unpacked]
  generalize x.toModel.unpack = u at *
  cases shape with
  | notANumber => omega
  | infinity => omega
  | zero => trivial
  | @finite n f positive digits =>
    have width : n.log2 ≤ 52 := Nat.lt_succ_iff.1 (log2_lt_of_small digits)
    let t := min (f - e) (Format.binary64.targetExponent (totalExponent n f - totalExponent m e))
    have target : t ≤ 971 := by
      refine (Int.min_le_right _ _).trans ?_
      simp only [Format.targetExponent, totalExponent, Format.mantissaBits, Format.minExponent]
      norm_num
      omega
    have lower : t ≤ f - e := Int.min_le_left _ _
    let shift := (f - e - t).toNat
    refine fitsDouble_roundWithAccuracy (m := (n <<< shift) / m) (e := t) target ?_ _ _
    by_cases none : (n <<< shift) / m = 0
    · rw [none, Nat.log2_zero]
      omega
    · have part := log2_div_add_le none
      rw [Nat.shiftLeft_eq, log2_mul_two_pow (by omega)] at part
      rw [Nat.shiftLeft_eq]
      omega

/-- A product of finite doubles is a number. -/
theorem isFinite_mul {x y : Float} (hx : x.isFinite = true) (hy : y.isFinite = true)
    (bounded : (x * y).isInf = false) : (x * y).isFinite = true := by
  have number : (x * y).isNaN = false := by
    rw [isNaN_eq_false_iff, sign?_mul]
    change x.toModel.unpack.isFinite = true at hx
    change y.toModel.unpack.isFinite = true at hy
    generalize x.toModel.unpack = u at *
    generalize y.toModel.unpack = v at *
    cases u <;> cases v <;> try contradiction
    case finite.finite => exact ⟨_, numberSign?_roundWithAccuracy ..⟩
    all_goals exact ⟨_, rfl⟩
  change (x * y).toModel.unpack.isInf = false at bounded
  change (x * y).toModel.unpack.isNaN = false at number
  show (x * y).toModel.unpack.isFinite = true
  generalize (x * y).toModel.unpack = u at *
  cases u <;> first | rfl | contradiction

theorem isFinite_neg {x : Float} (finite : x.isFinite = true) : (-x).isFinite = true := by
  have fits := fitsDouble_unpack finite
  show (Float.ofModel (.pack x.toModel.unpack.neg)).isFinite = true
  refine isFinite_pack ?_
  generalize x.toModel.unpack = u at *
  cases u <;> exact fits

/-! ### Whole numbers -/

/-- Digits are given places enough for a full mantissa. -/
theorem ofScientific_natCast {m k : Nat} (some : m ≠ 0) (small : k ≤ 2048) :
    UnpackedFloat.ofScientific .binary64 m k =
      roundWithAccuracy .binary64 .positive (m * 10 ^ k * 2 ^ 53) (-53) .exact := by
  have size : (2 : Int) ^ Format.binary64.exponentBits = 2048 := rfl
  have bits : Format.binary64.mantissaBits = 53 := rfl
  rw [UnpackedFloat.ofScientific, dif_neg some, if_neg (by rw [size]; omega),
    if_neg (by rw [size]; omega), if_pos (Int.natCast_nonneg k)]
  simp only [UnpackedFloat.mul, bits, Int.toNat_natCast, Nat.shiftLeft_eq]
  congr 1
  rw [Nat.mul_assoc, Nat.mul_comm (2 ^ 53), ← Nat.mul_assoc]

theorem isFinite_ofNat {n : Nat} (bound : n < 2 ^ 64) : (Float.ofNat n).isFinite = true := by
  by_cases small : n < 2 ^ 53
  · have width := log2_lt_of_small small
    rw [ofNat_eq_pack small]
    refine isFinite_pack ?_
    unfold wholeUnpacked
    split
    · show (n.log2 : Int) - 52 ≤ 971
      omega
    · trivial
  · have some : n ≠ 0 := by omega
    have width : n.log2 < 64 := (Nat.log2_lt some).2 bound
    have places := log2_mul_two_pow some 53
    show (Float.ofScientific n false 0).isFinite = true
    rw [Float.ofScientific, dif_neg (by omega)]
    refine isFinite_pack (u := UnpackedFloat.ofScientific .binary64 n (0 : Nat)) ?_
    rw [ofScientific_natCast some (Nat.zero_le _), Nat.pow_zero, Nat.mul_one]
    exact fitsDouble_roundWithAccuracy (by decide) (by omega) _ _

theorem isFinite_ofInt {n : Int} (low : -2 ^ 63 ≤ n) (high : n < 2 ^ 64) :
    (Float.ofInt n).isFinite = true := by
  cases n with
  | ofNat n => exact isFinite_ofNat (Int.ofNat_lt.1 high)
  | negSucc n => exact isFinite_neg (isFinite_ofNat (by omega))

/-! ### Powers of ten -/

/-- A positive number from four on. -/
def FromFour : UnpackedFloat → Prop
  | .finite .positive m e _ => 2 ≤ m.log2 + e
  | _ => False

instance : DecidablePred FromFour
  | .finite .positive m e _ => inferInstanceAs (Decidable (2 ≤ m.log2 + e))
  | .finite .negative .. | .infinity _ | .notANumber | .zero _ => .isFalse id

theorem FromFour.exists_eq {u : UnpackedFloat} (h : FromFour u) :
    ∃ m e k, u = .finite .positive m e k ∧ 2 ≤ m.log2 + e := by
  match u, h with
  | .finite .positive m e k, large => exact ⟨m, e, k, rfl, large⟩

theorem fromFour_tenPower {k : Nat} (low : 1 ≤ k) (high : k ≤ Json.topPower) :
    FromFour (Json.tenPower k).toModel.unpack := by
  have high : k ≤ 308 := high
  by_cases exact' : k ≤ 22
  · have table : ∀ k ∈ List.range' 1 22, FromFour (Json.tenPower k).toModel.unpack := by
      decide +kernel
    exact table k (List.mem_range'_1.2 (by omega))
  by_cases last : k = 308
  · subst last
    decide +kernel
  · have ten : 10 ^ k ≠ 0 := by positivity
    have upper : (10 ^ k).log2 < 1020 := by
      refine (Nat.log2_lt ten).2 ?_
      calc 10 ^ k ≤ 10 ^ 307 := Nat.pow_le_pow_right (by decide) (by omega)
        _ < 2 ^ 1020 := by decide +kernel
    have lower : 3 ≤ (10 ^ k).log2 := by
      refine (Nat.le_log2 ten).2 ?_
      calc 2 ^ 3 ≤ 10 ^ 1 := by decide
        _ ≤ 10 ^ k := Nat.pow_le_pow_right (by decide) low
    have places := log2_mul_two_pow ten 53
    obtain ⟨r, f, h, rounded, width, above, below⟩ :=
      exists_roundWithAccuracy_of_full (m := 10 ^ k * 2 ^ 53) (e := -53) (by omega) (by omega)
        .positive .exact
    have power : (Json.tenPower k).toModel = .pack (.finite .positive r f h) := by
      rw [Json.tenPower, Float.ofScientific, dif_neg (by omega), ← rounded, ← Nat.one_mul (10 ^ k),
        ← ofScientific_natCast Nat.one_ne_zero (by omega)]
      rfl
    rw [power, unpack_pack_of_full h width (by omega) (by omega)]
    show (2 : Int) ≤ r.log2 + f
    omega

theorem isFinite_tenPower {k : Nat} (high : k ≤ Json.topPower) :
    (Json.tenPower k).isFinite = true := by
  rcases Nat.eq_zero_or_pos k with rfl | low
  · decide +kernel
  · obtain ⟨m, e, h, unpacked, -⟩ := (fromFour_tenPower low high).exists_eq
    show (Json.tenPower k).toModel.unpack.isFinite = true
    rw [unpacked]
    rfl

theorem isFinite_div_tenPower {x : Float} (finite : x.isFinite = true) {k : Nat} (low : 1 ≤ k)
    (high : k ≤ Json.topPower) : (x / Json.tenPower k).isFinite = true := by
  obtain ⟨m, e, h, unpacked, large⟩ := (fromFour_tenPower low high).exists_eq
  exact isFinite_div finite unpacked large

/-! ### Numbers of a document -/

theorem isFinite_of_scaleByTen {x y : Float} {e : Int} (finite : x.isFinite = true)
    (eq : Json.scaleByTen x e = some y) : y.isFinite = true := by
  fun_induction Json.scaleByTen x e with
  | case1 x e small up product infinite => cases eq
  | case2 x e small up product bounded =>
    obtain rfl := Option.some.inj eq
    exact isFinite_mul finite (isFinite_tenPower small) (Bool.eq_false_iff.2 bounded)
  | case3 x e small down =>
    obtain rfl := Option.some.inj eq
    exact isFinite_div_tenPower finite (by omega) small
  | case4 x e far zero =>
    obtain rfl := Option.some.inj eq
    exact finite
  | case5 => cases eq
  | case6 x e far nonzero down ih =>
    exact ih (isFinite_div_tenPower finite (by decide) (Nat.le_refl Json.topPower)) eq

theorem absorbWhole_le (digits : List Char) :
    (Json.absorbWhole digits).1 ≤ Decimal.maxUInt64 := by
  unfold Json.absorbWhole
  refine List.foldlRecOn (motive := fun (read : Nat × Nat) => read.1 ≤ Decimal.maxUInt64) digits _
    (Nat.zero_le _) ?_
  rintro ⟨n, dropped⟩ bound c -
  dsimp only
  split
  · next fits => exact fits.2
  · exact bound

theorem absorbFraction_le {n : Nat} (bound : n ≤ Decimal.maxUInt64) (digits : List Char) :
    (Json.absorbFraction n digits).1 ≤ Decimal.maxUInt64 := by
  induction digits generalizing n with
  | nil => exact bound
  | cons c rest ih =>
    rw [Json.absorbFraction]
    split
    · next fits => exact ih fits
    · exact bound

theorem isFinite_of_toFloat? {t : Json.NumberText} {x : Float} (eq : t.toFloat? = some x) :
    x.isFinite = true := by
  obtain ⟨size, scaled, rfl⟩ := Option.map_eq_some_iff.1 eq
  have bound := absorbFraction_le (absorbWhole_le t.whole) t.fraction
  have whole : (Float.ofNat
      (Json.absorbFraction (Json.absorbWhole t.whole).1 t.fraction).1).isFinite = true :=
    isFinite_ofNat (Nat.lt_succ_of_le bound)
  have finite : size.isFinite = true := by
    dsimp only at scaled
    split at scaled
    · exact isFinite_of_scaleByTen whole scaled
    · split at scaled
      · split at scaled
        · cases scaled
        · obtain rfl := Option.some.inj scaled
          decide +kernel
      · exact isFinite_of_scaleByTen whole scaled
  split
  · exact isFinite_neg finite
  · exact finite

end MeterSight
