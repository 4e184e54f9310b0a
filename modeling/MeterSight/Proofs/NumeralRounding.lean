import MeterSight.Proofs.NearestDouble

/-!
# Rounding of numerals

A numeral is converted by a product or by a quotient, of doubles or of digits, and whichever way it
goes it is rounded once. So it becomes the double nearest to what it denotes.
-/
namespace MeterSight
open Float.Model Float.Model.UnpackedFloat

/-! ### Products and quotients -/

theorem isNearestDouble_round {m : Nat} {e : Int} {a : Accuracy} {x : ℚ} (nonneg : 0 ≤ x)
    (told : Represents (.ofMantissaAndAccuracy m a) x) (low : e ≤ lastPlace m e) :
    IsNearestDouble (x * 2 ^ e)
      (.ofModel (.pack (roundWithAccuracy .binary64 .positive m e a))) := by
  obtain ⟨r, rounded⟩ := exists_isRounded told low
  exact rounded.isNearestDouble (by positivity)

/-- A product with digits enough is rounded once. -/
theorem isNearestDouble_mul {m n : Nat} {e f : Int} (hm : 0 < m) (hn : 0 < n)
    (digits : 52 ≤ (m * n).log2) :
    IsNearestDouble (m * 2 ^ e * (n * 2 ^ f))
      (.ofModel (.pack (UnpackedFloat.mul .binary64 (.finite .positive m e hm)
        (.finite .positive n f hn)))) := by
  have low : e + f ≤ lastPlace (m * n) (e + f) := le_max_of_le_left (by omega)
  have product : (m * 2 ^ e * (n * 2 ^ f) : ℚ) = (m * n : Nat) * 2 ^ (e + f) := by
    rw [zpow_add₀ (by norm_num)]
    push_cast
    ring
  rw [product]
  exact isNearestDouble_round (by positivity) (.whole (m * n)) low

/-- A quotient is given digits enough and rounded once. -/
theorem isNearestDouble_div {m n : Nat} {e f : Int} (hm : 0 < m) (hn : 0 < n) :
    IsNearestDouble (m * 2 ^ e / (n * 2 ^ f))
      (.ofModel (.pack (UnpackedFloat.div .binary64 (.finite .positive m e hm)
        (.finite .positive n f hn)))) := by
  let t := min (e - f) (Format.binary64.targetExponent (totalExponent m e - totalExponent n f))
  have target : Format.binary64.targetExponent (totalExponent m e - totalExponent n f) =
      max (m.log2 + e - n.log2 - f - 53) (-1074) := by
    simp only [Format.targetExponent, totalExponent, Format.mantissaBits, Format.minExponent]
    norm_num
    omega
  let k := (e - f - t).toNat
  have shift : e - f = t + k := by omega
  have value : (m * 2 ^ e / (n * 2 ^ f) : ℚ) = ((m <<< k : Nat) / n : ℚ) * 2 ^ t := by
    rw [Nat.shiftLeft_eq, mul_div_mul_comm, ← zpow_sub₀ (by norm_num), shift,
      zpow_add₀ (by norm_num), zpow_natCast]
    push_cast
    ring
  have low : t ≤ lastPlace (m <<< k / n) t := by
    by_cases least : t ≤ -1074
    · exact le_max_of_le_right least
    have enough : n.log2 + 53 ≤ m.log2 + k := by omega
    have digits : 2 ^ 52 ≤ m <<< k / n := by
      rw [Nat.le_div_iff_mul_le hn, Nat.shiftLeft_eq]
      calc 2 ^ 52 * n ≤ 2 ^ 52 * 2 ^ (n.log2 + 1) := Nat.mul_le_mul_left _ Nat.lt_log2_self.le
        _ = 2 ^ (n.log2 + 53) := by rw [← Nat.pow_add, Nat.add_comm, Nat.add_assoc]
        _ ≤ 2 ^ (m.log2 + k) := Nat.pow_le_pow_right two_pos enough
        _ = 2 ^ m.log2 * 2 ^ k := Nat.pow_add ..
        _ ≤ m * 2 ^ k := Nat.mul_le_mul_right _ (Nat.log2_self_le hm.ne')
    have length : 52 ≤ (m <<< k / n).log2 := (Nat.le_log2 (by omega)).2 digits
    exact le_max_of_le_left (by omega)
  rw [value]
  exact isNearestDouble_round (by positivity) (.quotient (m <<< k) hn) low

/-! ### Numerals -/

/-- A number that is this power of ten, as a double keeps it. -/
def IsTenPower (k : Nat) : UnpackedFloat → Prop
  | .finite .positive m f _ => -52 ≤ f ∧ m * 2 ^ (f + 52).toNat = 10 ^ k * 2 ^ 52 ∧ 2 ^ 52 ≤ m
  | _ => False

instance (k : Nat) : DecidablePred (IsTenPower k)
  | .finite .positive _ _ _ => inferInstanceAs (Decidable (_ ∧ _ ∧ _))
  | .finite .negative .. | .infinity _ | .notANumber | .zero _ => .isFalse id

theorem isTenPower_table : ∀ k : Fin Float.exactlyRepresentablePowersOfTen.size,
    IsTenPower k Float.exactlyRepresentablePowersOfTen[k].toModel.unpack := by
  decide +kernel

theorem exists_unpack_tenPower {k : Nat} (h : k < Float.exactlyRepresentablePowersOfTen.size) :
    ∃ m f pos, Float.exactlyRepresentablePowersOfTen[k].toModel.unpack =
      .finite .positive m f pos ∧ 2 ^ 52 ≤ m ∧ (m * 2 ^ f : ℚ) = 10 ^ k := by
  have table : IsTenPower k Float.exactlyRepresentablePowersOfTen[k].toModel.unpack :=
    isTenPower_table ⟨k, h⟩
  generalize Float.exactlyRepresentablePowersOfTen[k].toModel.unpack = u at *
  match u, table with
  | .finite .positive m f pos, ⟨low, eq, full⟩ =>
    refine ⟨m, f, pos, rfl, full, ?_⟩
    obtain ⟨j, hj⟩ : ∃ j : Nat, f + 52 = j := ⟨(f + 52).toNat, by omega⟩
    rw [hj, Int.toNat_natCast] at eq
    have power : (m * 2 ^ j : ℚ) = 10 ^ k * 2 ^ 52 := by exact_mod_cast eq
    have place : f = j - (52 : Nat) := by omega
    rw [place, zpow_sub₀ (by norm_num), zpow_natCast, zpow_natCast, ← mul_div_assoc, power]
    field_simp

theorem exists_unpack_toFloat {m : Nat} (some : 0 < m) (small : m < 2 ^ 53) :
    ∃ n f pos, m.toUInt64.toFloat.toModel.unpack = .finite .positive n f pos ∧ 2 ^ 52 ≤ n ∧
      (n * 2 ^ f : ℚ) = m := by
  have width := log2_lt_of_small small
  have unpacked : m.toUInt64.toFloat.toModel.unpack = wholeUnpacked m := by
    rw [toFloat_toUInt64 small]
    exact unpack_pack_whole small
  rw [wholeUnpacked, dif_pos some] at unpacked
  refine ⟨_, _, _, unpacked, ?_, ?_⟩
  · calc 2 ^ 52 = 2 ^ m.log2 * 2 ^ (52 - m.log2) := by rw [← Nat.pow_add]; congr 1; omega
      _ ≤ m * 2 ^ (52 - m.log2) := Nat.mul_le_mul_right _ (Nat.log2_self_le some.ne')
  · have exponent : (m.log2 : Int) - 52 = -((52 - m.log2 : Nat) : Int) := by omega
    rw [exponent, zpow_neg, zpow_natCast]
    push_cast
    field_simp

/-- A whole number is converted by a product, by way of doubles where both factors are doubles. -/
theorem isNearestDouble_ofScientific_false {m : Nat} (some : 0 < m) {k : Nat} (bound : k ≤ 2048) :
    IsNearestDouble (m * 10 ^ k) (Float.ofScientific m false k) := by
  unfold Float.ofScientific
  split
  next small =>
    obtain ⟨n, f, pos, unpacked, full, value⟩ := exists_unpack_toFloat some small.1
    obtain ⟨n', f', pos', unpacked', full', value'⟩ := exists_unpack_tenPower (Nat.lt_succ_of_le small.2)
    have digits : 52 ≤ (n * n').log2 := by
      refine (Nat.le_log2 (by positivity)).2 (full.trans ?_)
      exact Nat.le_mul_of_pos_right n pos'
    have product := isNearestDouble_mul (e := f) (f := f') pos pos' digits
    rw [value, value', ← unpacked, ← unpacked'] at product
    exact product
  next large =>
    show IsNearestDouble _ (.ofModel (.pack (UnpackedFloat.ofScientific .binary64 m k)))
    rw [ofScientific_natCast some.ne' bound]
    have places := log2_mul_two_pow (n := m * 10 ^ k) (by positivity) 53
    have low : -53 ≤ lastPlace (m * 10 ^ k * 2 ^ 53) (-53) := le_max_of_le_left (by omega)
    have product := isNearestDouble_round (Nat.cast_nonneg _) (.whole _) low
    have value : ((m * 10 ^ k * 2 ^ 53 : Nat) : ℚ) * 2 ^ (-53 : ℤ) = m * 10 ^ k := by
      rw [Nat.cast_mul _ (2 ^ 53), Nat.cast_pow 2 53, zpow_neg, Nat.cast_ofNat]
      push_cast
      exact mul_inv_cancel_right₀ (by positivity) _
    rw [← value]
    exact product

/-- A fraction is converted by a quotient. -/
theorem isNearestDouble_ofScientific_true {m : Nat} (some : 0 < m) {k : Nat} (least : 0 < k)
    (bound : k ≤ 2048 + m.log2) : IsNearestDouble (m / 10 ^ k) (Float.ofScientific m true k) := by
  unfold Float.ofScientific
  split
  next small =>
    obtain ⟨n, f, pos, unpacked, -, value⟩ := exists_unpack_toFloat some small.1
    obtain ⟨n', f', pos', unpacked', -, value'⟩ := exists_unpack_tenPower (Nat.lt_succ_of_le small.2)
    have quotient := isNearestDouble_div (e := f) (f := f') pos pos'
    rw [value, value', ← unpacked, ← unpacked'] at quotient
    exact quotient
  next large =>
    have size : (2 : Int) ^ Format.binary64.exponentBits = 2048 := rfl
    have exponent : Int.negOfNat k = -(k : Int) := Int.negOfNat_eq
    have way : UnpackedFloat.ofScientific .binary64 m (-(k : Int)) =
        UnpackedFloat.div .binary64 (.finite .positive m 0 some)
          (.finite .positive (10 ^ k) 0 (by positivity)) := by
      rw [UnpackedFloat.ofScientific, dif_neg some.ne', if_neg (by rw [size]; omega),
        if_neg (by rw [size]; omega), if_neg (by omega)]
      simp only [neg_neg, Int.toNat_natCast]
    have quotient := isNearestDouble_div (e := 0) (f := 0) some (n := 10 ^ k) (by positivity)
    rw [← way] at quotient
    simp only [zpow_zero, mul_one, Nat.cast_pow, Nat.cast_ofNat] at quotient
    rw [if_pos rfl, exponent]
    exact quotient

/-- Half the least place of all is more than any number of a lower order. -/
theorem tenPower_le_halfPlace : (10 : ℚ) ^ (-401 : ℤ) ≤ 2 ^ (-1075 : ℤ) := by
  rw [zpow_neg, zpow_neg, zpow_ofNat, zpow_ofNat]
  refine inv_anti₀ (by positivity) ?_
  exact_mod_cast (by decide +kernel : 2 ^ 1075 ≤ 10 ^ 401)

theorem roundedAway_le_tenPower : roundedAway ≤ 10 ^ (400 : ℤ) := by
  calc roundedAway ≤ 2 ^ 53 * 2 ^ 971 :=
        mul_le_mul_of_nonneg_right (by norm_num) (by positivity)
    _ = 2 ^ 1024 := (pow_add 2 53 971).symm
    _ ≤ 10 ^ 400 := by exact_mod_cast (by decide +kernel : 2 ^ 1024 ≤ 10 ^ 400)
    _ = 10 ^ (400 : ℤ) := (zpow_natCast 10 400).symm

namespace Decimal.Numeral

theorem digitCount_le (m : Nat) : digitCount m ≤ m.log2 + 1 := by
  refine (Nat.length_toDigits_le_iff (by decide) (Nat.succ_pos _)).2 (Nat.lt_log2_self.trans_le ?_)
  exact Nat.pow_le_pow_left (by decide) _

/-- The order of a numeral tells between which powers of ten it lies. -/
theorem order_bounds (n : Numeral) (some : 0 < n.mantissa) :
    (10 : ℚ) ^ (n.order - 1) ≤ n.mantissa * 10 ^ n.exponent ∧
      (n.mantissa * 10 ^ n.exponent : ℚ) < 10 ^ n.order := by
  obtain ⟨d, count⟩ : ∃ d, digitCount n.mantissa = d + 1 :=
    Nat.exists_eq_succ_of_ne_zero (Nat.length_toDigits_pos).ne'
  have upper : n.mantissa < 10 ^ (d + 1) :=
    (Nat.length_toDigits_le_iff (by decide) (Nat.succ_pos d)).1 count.le
  have lower : 10 ^ d ≤ n.mantissa := by
    by_contra less
    rcases Nat.eq_zero_or_pos d with rfl | longer
    · omega
    · have short := (Nat.length_toDigits_le_iff (by decide) longer).2 (not_le.1 less)
      exact absurd (count.symm.le.trans short) (by omega)
  have unit : (0 : ℚ) < 10 ^ n.exponent := by positivity
  rw [order, count]
  constructor
  · rw [Nat.cast_succ, add_right_comm, add_sub_cancel_right, zpow_add₀ (by norm_num), zpow_natCast]
    exact mul_le_mul_of_nonneg_right (by exact_mod_cast lower) unit.le
  · rw [zpow_add₀ (by norm_num), zpow_natCast]
    exact mul_lt_mul_of_pos_right (by exact_mod_cast upper) unit

/-- Between the orders beyond which numerals are not converted. -/
theorem isNearestDouble_ofScientific (n : Numeral) (some : 0 < n.mantissa)
    (near : -400 ≤ n.order) (bounded : n.order ≤ 400) :
    IsNearestDouble (n.mantissa * 10 ^ n.exponent)
      (Float.ofScientific n.mantissa (n.exponent < 0) n.exponent.natAbs) := by
  have order : n.order = digitCount n.mantissa + n.exponent := rfl
  have digits := digitCount_le n.mantissa
  by_cases fraction : n.exponent < 0
  · have quotient := isNearestDouble_ofScientific_true some (k := n.exponent.natAbs) (by omega)
      (by omega)
    have power : n.exponent = -(n.exponent.natAbs : Int) := by omega
    rw [decide_eq_true fraction]
    convert quotient using 1
    nth_rewrite 1 [power]
    rw [zpow_neg, zpow_natCast, ← div_eq_mul_inv]
  · have product := isNearestDouble_ofScientific_false some (k := n.exponent.natAbs) (by omega)
    have power : n.exponent = (n.exponent.natAbs : Int) := by omega
    rw [decide_eq_false fraction]
    convert product using 1
    nth_rewrite 1 [power]
    rw [zpow_natCast]

/-- The absolute value of a numeral is rounded to the nearest double. -/
theorem isNearestDouble_absFloat (n : Numeral) :
    IsNearestDouble (n.mantissa * 10 ^ n.exponent) n.absFloat := by
  have nonneg : (0 : ℚ) ≤ n.mantissa * 10 ^ n.exponent := by positivity
  have far : farExponent = 400 := rfl
  rcases Nat.eq_zero_or_pos n.mantissa with none | some
  · rw [absFloat, if_pos (.inl none)]
    exact isNearestDouble_zero nonneg (by rw [none]; simp)
  obtain ⟨lower, upper⟩ := n.order_bounds some
  unfold absFloat
  split
  next low =>
    refine isNearestDouble_zero nonneg ?_
    calc (n.mantissa * 10 ^ n.exponent : ℚ) ≤ 10 ^ n.order := upper.le
      _ ≤ 10 ^ (-401 : ℤ) := zpow_le_zpow_right₀ (by norm_num) (by omega)
      _ ≤ 2 ^ (-1075 : ℤ) := tenPower_le_halfPlace
  split
  next near high =>
    refine isNearestDouble_infinity ?_
    calc roundedAway ≤ 10 ^ (400 : ℤ) := roundedAway_le_tenPower
      _ ≤ 10 ^ (n.order - 1) := zpow_le_zpow_right₀ (by norm_num) (by omega)
      _ ≤ n.mantissa * 10 ^ n.exponent := lower
  next near bounded => exact n.isNearestDouble_ofScientific some (by omega) (by omega)

/-- What a numeral denotes. -/
def toRat (n : Numeral) : ℚ := (if n.negative then -1 else 1) * (n.mantissa * 10 ^ n.exponent)

/-- A numeral is read as the double nearest to what it denotes. -/
theorem isNearestDouble_toFloat (n : Numeral) : IsNearestDouble n.toRat n.toFloat := by
  unfold toRat toFloat
  split
  · rw [neg_one_mul]
    exact n.isNearestDouble_absFloat.neg
  · rw [one_mul]
    exact n.isNearestDouble_absFloat

end Decimal.Numeral
end MeterSight
