import MeterSight.Proofs.DoubleSign

/-!
# Whole doubles

Whole numbers below `2 ^ 53` are doubles, and as long as results stay below that bound they are
read, added and multiplied without rounding.
-/
namespace MeterSight
open Float.Model Float.Model.UnpackedFloat

theorem log2_mul_two_pow {n : Nat} (h : n ≠ 0) (k : Nat) : (n * 2 ^ k).log2 = n.log2 + k := by
  obtain ⟨low, high⟩ := (Nat.log2_eq_iff h).1 rfl
  refine (Nat.log2_eq_iff (by positivity)).2 ⟨?_, ?_⟩
  · rw [Nat.pow_add]
    exact Nat.mul_le_mul_right _ low
  · rw [Nat.add_right_comm, Nat.pow_add]
    exact Nat.mul_lt_mul_of_pos_right high (by positivity)

theorem shiftRight_exact (m k : Nat) :
    (⟨m * 2 ^ k, false, false⟩ : ExtendedMantissa) >>> k = ⟨m, false, false⟩ := by
  induction k generalizing m with
  | zero => simp [HShiftRight.hShiftRight, Nat.repeat]
  | succ k ih =>
    have once : (⟨m * 2, false, false⟩ : ExtendedMantissa).shiftRightOne = ⟨m, false, false⟩ := by
      simp [ExtendedMantissa.shiftRightOne]
    calc (⟨m * 2 ^ (k + 1), false, false⟩ : ExtendedMantissa) >>> (k + 1)
        = ((⟨m * 2 * 2 ^ k, false, false⟩ : ExtendedMantissa) >>> k).shiftRightOne := by
          rw [Nat.pow_succ', ← Nat.mul_assoc]
          rfl
      _ = ⟨m, false, false⟩ := by rw [ih, once]

/-- A whole number as an unpacked double whose digits fill the mantissa. -/
def wholeUnpacked (n : Nat) : UnpackedFloat :=
  if h : 0 < n then .finite .positive (n * 2 ^ (52 - n.log2)) (n.log2 - 52) (by positivity)
  else .zero .positive

theorem log2_lt_of_small {n : Nat} (small : n < 2 ^ 53) : n.log2 < 53 := by
  by_cases h : n = 0
  · simp [h]
  · exact (Nat.log2_lt h).2 small

theorem targetExponent_whole {n : Nat} (h : 0 < n) (k : Nat) :
    Format.binary64.targetExponent (totalExponent (n * 2 ^ k) (-k)) = n.log2 - 52 := by
  rw [totalExponent, log2_mul_two_pow (by omega)]
  simp only [Format.targetExponent, Format.mantissaBits, Format.minExponent]
  omega

theorem shiftToExponent_whole (n j k : Nat) :
    shiftToExponent (n * 2 ^ (j + k)) (-(j + k : Nat)) .exact (-j) =
      (⟨n * 2 ^ j, false, false⟩, -(j : Int)) := by
  have amount : (-(j : Int) - -((j + k : Nat) : Int)).toNat = k := by omega
  simp only [shiftToExponent, ExtendedMantissa.ofMantissaAndAccuracy, amount]
  rw [Nat.pow_add, ← Nat.mul_assoc, shiftRight_exact]
  congr 1
  omega

/-- Digits below the point that are all zero are rounded away without loss. -/
theorem roundWithAccuracy_whole {n : Nat} (h : 0 < n) (small : n < 2 ^ 53) {k : Nat}
    (full : 52 ≤ n.log2 + k) :
    roundWithAccuracy .binary64 .positive (n * 2 ^ k) (-k) .exact = wholeUnpacked n := by
  have log := log2_lt_of_small small
  obtain ⟨j, hj⟩ : ∃ j : Nat, n.log2 + j = 52 := ⟨52 - n.log2, by omega⟩
  obtain ⟨i, rfl⟩ : ∃ i, k = j + i := ⟨k - j, by omega⟩
  have first : shiftToTargetExponent .binary64 (n * 2 ^ (j + i)) (-(j + i : Nat)) .exact =
      (⟨n * 2 ^ j, false, false⟩, -(j : Int)) := by
    rw [shiftToTargetExponent, targetExponent_whole h, ← shiftToExponent_whole n j i]
    congr 1
    omega
  have second : shiftToTargetExponent .binary64 (n * 2 ^ j) (-j) .exact =
      (⟨n * 2 ^ j, false, false⟩, -(j : Int)) := by
    rw [shiftToTargetExponent, targetExponent_whole h]
    have target : (n.log2 : Int) - 52 = -j := by omega
    rw [target]
    exact shiftToExponent_whole n j 0
  have rounded : (⟨n * 2 ^ j, false, false⟩ : ExtendedMantissa).roundedMantissa = n * 2 ^ j := rfl
  have positive : n * 2 ^ j ≠ 0 := by positivity
  have width : 52 - n.log2 = j := by omega
  have exponent : (n.log2 : Int) - 52 = -j := by omega
  simp only [roundWithAccuracy, first, rounded, second, wholeUnpacked, h, ↓reduceDIte, positive,
    width, exponent]

theorem normalize_whole {n : Nat} (small : n < 2 ^ 53) (k : Nat) :
    UnpackedFloat.normalize .binary64 (n * 2 ^ k : Nat) (-k) .positive = wholeUnpacked n := by
  by_cases h : 0 < n
  · have positive : 0 < n * 2 ^ k := by positivity
    have more : compare ((n * 2 ^ k : Nat) : Int) 0 = .gt := Int.compare_eq_gt.2 (by omega)
    simp only [UnpackedFloat.normalize, more, UnpackedFloat.round, Int.toNat_natCast,
      targetExponent_whole h, decreaseExponent]
    generalize hs : (-(k : Int) - (n.log2 - 52)).toNat = s
    rw [Nat.shiftLeft_eq, Nat.mul_assoc, ← Nat.pow_add,
      ← roundWithAccuracy_whole h small (k := k + s) (by omega)]
    congr 1
    omega
  · obtain rfl : n = 0 := by omega
    simp [UnpackedFloat.normalize, wholeUnpacked]


/-- Bits with a full mantissa belong to one finite double. -/
theorem Unpacks.eq_finite {s : Sign} {n : Nat} {u : UnpackedFloat} (h : Unpacks s n u) {m : Nat}
    {e : Int} (full : 2 ^ 52 ≤ m) (bound : m < 2 ^ 53) (low : -1074 ≤ e)
    (bits : (n : Int) = (e + 1074) * 2 ^ 52 + m) (finite : n < infiniteMagnitude) :
    u = .finite s m e (by omega) := by
  have infinite : infiniteMagnitude = 2047 * 2 ^ 52 := rfl
  cases h with
  | notANumber => omega
  | infinity => omega
  | zero => omega
  | @finite m' e' _ mBound eLow mFull bits' =>
    obtain rfl : e' = e := by omega
    obtain rfl : m' = m := by omega
    rfl

theorem toNat_packComponents (s : Sign) (e : BitVec 11) (m : BitVec 52) :
    (packComponents .binary64 s e m).toNat =
      s.toBitVec.toNat * 2 ^ 63 + e.toNat * 2 ^ 52 + m.toNat := by
  show (s.toBitVec ++ e ++ m).toNat = _
  rw [toNat_append, toNat_append]
  omega

theorem unpacks_packComponents (s : Sign) (e : BitVec 11) (m : BitVec 52) :
    Unpacks s (e.toNat * 2 ^ 52 + m.toNat)
      (UnpackedFloat.unpack .binary64 (packComponents .binary64 s e m)) := by
  have shape := unpacks_unpack (packComponents .binary64 s e m)
  have bits := toNat_packComponents s e m
  have eBound := e.isLt
  have mBound := m.isLt
  cases s with
  | negative =>
    have bit : Sign.negative.toBitVec.toNat = 1 := rfl
    rw [if_neg (by omega)] at shape
    convert shape using 1
    omega
  | positive =>
    have bit : Sign.positive.toBitVec.toNat = 0 := rfl
    rw [if_pos (by omega)] at shape
    convert shape using 1
    omega

/-- Packing keeps a double with a full mantissa. -/
theorem unpack_pack_of_full {s : Sign} {m : Nat} {e : Int} (h : 0 < m) (width : m.log2 = 52)
    (low : -1074 ≤ e) (high : e < 972) :
    (Float.Model.pack (.finite s m e h)).unpack = .finite s m e h := by
  obtain ⟨full, bound⟩ := (Nat.log2_eq_iff (by omega)).1 width
  have bias : (Format.binary64.exponentBias : Int) = 1023 := by decide
  have size : 2 ^ Format.binary64.exponentBits = 2048 := rfl
  have infinite : infiniteMagnitude = 2047 * 2 ^ 52 := rfl
  have packed : UnpackedFloat.pack .binary64 (.finite s m e h) =
      packComponents .binary64 s (BitVec.ofNat 11 (e + 1023 + (52 : Nat)).toNat)
        (BitVec.ofNat 52 m) := by
    simp only [UnpackedFloat.pack, bias, size]
    rw [if_neg (by omega), if_pos (by rw [width]; rfl)]
  show UnpackedFloat.unpack .binary64 (UnpackedFloat.pack .binary64 _) = _
  rw [packed]
  refine (unpacks_packComponents ..).eq_finite full bound low ?_ ?_ <;>
  · rw [BitVec.toNat_ofNat, BitVec.toNat_ofNat, Nat.mod_eq_of_lt (by omega)]
    omega

theorem unpack_pack_whole {n : Nat} (small : n < 2 ^ 53) :
    (Float.Model.pack (wholeUnpacked n)).unpack = wholeUnpacked n := by
  unfold wholeUnpacked
  split
  · have log := log2_lt_of_small small
    refine unpack_pack_of_full _ ?_ (by omega) (by omega)
    rw [log2_mul_two_pow (by omega)]
    omega
  · rfl

theorem mul_wholeUnpacked {m n : Nat} (small : m * n < 2 ^ 53) (hm : m < 2 ^ 53)
    (hn : n < 2 ^ 53) :
    (wholeUnpacked m).mul .binary64 (wholeUnpacked n) = wholeUnpacked (m * n) := by
  by_cases pm : 0 < m
  · by_cases pn : 0 < n
    · have p : 0 < m * n := by positivity
      have lm := log2_lt_of_small hm
      have ln := log2_lt_of_small hn
      have low : m.log2 + n.log2 ≤ (m * n).log2 := by
        refine (Nat.le_log2 (by positivity)).2 ?_
        rw [Nat.pow_add]
        exact Nat.mul_le_mul (Nat.log2_self_le (by omega)) (Nat.log2_self_le (by omega))
      rw [← roundWithAccuracy_whole p small (k := 104 - m.log2 - n.log2) (by omega)]
      simp only [wholeUnpacked, pm, pn, ↓reduceDIte, UnpackedFloat.mul]
      have split : 104 - m.log2 - n.log2 = (52 - m.log2) + (52 - n.log2) := by omega
      have digits : m * 2 ^ (52 - m.log2) * (n * 2 ^ (52 - n.log2)) =
          m * n * 2 ^ (104 - m.log2 - n.log2) := by
        rw [split, Nat.pow_add]
        ring
      rw [digits]
      congr 1
      omega
    · obtain rfl : n = 0 := by omega
      simp [wholeUnpacked, pm, UnpackedFloat.mul]
      rfl
  · obtain rfl : m = 0 := by omega
    by_cases pn : 0 < n <;> simp [wholeUnpacked, pn, UnpackedFloat.mul] <;> rfl

theorem add_wholeUnpacked {m n : Nat} (small : m + n < 2 ^ 53) :
    (wholeUnpacked m).add .binary64 (wholeUnpacked n) = wholeUnpacked (m + n) := by
  by_cases pm : 0 < m
  · by_cases pn : 0 < n
    · have lm := log2_lt_of_small (n := m) (by omega)
      have ln := log2_lt_of_small (n := n) (by omega)
      have scaled (a i k : Nat) (h : i ≤ k) :
          (a * 2 ^ i) <<< (k - i) = a * 2 ^ k := by
        rw [Nat.shiftLeft_eq, Nat.mul_assoc, ← Nat.pow_add]
        congr 2
        omega
      -- The digits of both are counted from the lower of their last places.
      let k := max (52 - m.log2) (52 - n.log2)
      have last : min ((m.log2 : Int) - 52) (n.log2 - 52) = -(k : Int) := by omega
      have shiftM : ((m.log2 : Int) - 52 - -(k : Int)).toNat = k - (52 - m.log2) := by omega
      have shiftN : ((n.log2 : Int) - 52 - -(k : Int)).toNat = k - (52 - n.log2) := by omega
      rw [← normalize_whole small k]
      simp only [wholeUnpacked, pm, pn, ↓reduceDIte, UnpackedFloat.add, last, decreaseExponent,
        shiftM, shiftN, Sign.apply]
      rw [scaled m _ k (by omega), scaled n _ k (by omega)]
      congr 1
      push_cast
      ring
    · obtain rfl : n = 0 := by omega
      simp [wholeUnpacked, pm, UnpackedFloat.add]
  · obtain rfl : m = 0 := by omega
    by_cases pn : 0 < n <;> simp [wholeUnpacked, pn, UnpackedFloat.add]

theorem toFloat_toUInt64 {n : Nat} (small : n < 2 ^ 53) :
    n.toUInt64.toFloat = .ofModel (.pack (wholeUnpacked n)) := by
  have rounded := normalize_whole small 0
  have size : n.toUInt64.toNat = n := by
    simp
    omega
  rw [Nat.pow_zero, Nat.mul_one] at rounded
  show Float.ofModel (.pack (UnpackedFloat.normalize .binary64 n.toUInt64.toNat 0 .positive)) = _
  rw [size]
  exact congrArg (Float.ofModel ∘ Float.Model.pack) rounded

/-- A double that is this whole number. -/
theorem ofNat_eq_pack {n : Nat} (small : n < 2 ^ 53) :
    Float.ofNat n = .ofModel (.pack (wholeUnpacked n)) := by
  have one : (Float.ofBits 0x3FF0000000000000).toModel.unpack = wholeUnpacked 1 := rfl
  have once : Float.ofNat n = n.toUInt64.toFloat * Float.ofBits 0x3FF0000000000000 := by
    show Float.ofScientific n false 0 = _
    rw [Float.ofScientific, dif_pos (by omega)]
    rfl
  rw [once, toFloat_toUInt64 small]
  show Float.ofModel (.pack ((Float.Model.pack (wholeUnpacked n)).unpack.mul .binary64 _)) = _
  rw [unpack_pack_whole small, one, mul_wholeUnpacked (by omega) small (by decide), Nat.mul_one]

theorem ofNat_add {m n : Nat} (small : m + n < 2 ^ 53) :
    Float.ofNat m + Float.ofNat n = Float.ofNat (m + n) := by
  rw [ofNat_eq_pack small, ofNat_eq_pack (by omega), ofNat_eq_pack (by omega)]
  show Float.ofModel (.pack ((Float.Model.pack _).unpack.add .binary64
    (Float.Model.pack _).unpack)) = _
  rw [unpack_pack_whole (by omega), unpack_pack_whole (by omega), add_wholeUnpacked small]

theorem ofNat_mul {m n : Nat} (small : m * n < 2 ^ 53) (hm : m < 2 ^ 53) (hn : n < 2 ^ 53) :
    Float.ofNat m * Float.ofNat n = Float.ofNat (m * n) := by
  rw [ofNat_eq_pack small, ofNat_eq_pack hm, ofNat_eq_pack hn]
  show Float.ofModel (.pack ((Float.Model.pack _).unpack.mul .binary64
    (Float.Model.pack _).unpack)) = _
  rw [unpack_pack_whole hm, unpack_pack_whole hn, mul_wholeUnpacked small hm hn]

/-- The number that a finite double stands for. -/
def exactValue? (x : Float) : Option ℚ :=
  match x.toModel.unpack with
  | .zero _ => some 0
  | .finite s m e _ => some (s.apply m * 2 ^ e)
  | _ => none

theorem exactValue?_ofNat {n : Nat} (small : n < 2 ^ 53) :
    exactValue? (Float.ofNat n) = some (n : ℚ) := by
  have unpacked : (Float.ofNat n).toModel.unpack = wholeUnpacked n := by
    rw [ofNat_eq_pack small]
    exact unpack_pack_whole small
  rw [exactValue?, unpacked, wholeUnpacked]
  by_cases h : 0 < n
  · have log := log2_lt_of_small small
    have exponent : (n.log2 : Int) - 52 = -((52 - n.log2 : Nat) : Int) := by omega
    rw [dif_pos h, exponent]
    simp [Sign.apply]
  · obtain rfl : n = 0 := by omega
    simp

/-- A whole number is read exactly. -/
theorem toFloat_whole {n : Nat} (small : n < 2 ^ 53) :
    Decimal.Numeral.toFloat ⟨false, n, 0⟩ = Float.ofNat n := by
  have few : Decimal.digitCount n ≤ 16 :=
    (Nat.length_toDigits_le_iff (by decide) (by decide)).2 (by omega)
  have order : Decimal.Numeral.order ⟨false, n, 0⟩ = Decimal.digitCount n := Int.add_zero _
  have far : Decimal.farExponent = 400 := rfl
  rw [Decimal.Numeral.toFloat, if_neg Bool.false_ne_true, Decimal.Numeral.absFloat, order, far]
  by_cases none : n = 0
  · subst none
    rfl
  · rw [if_neg (by rintro (zero | low); exacts [none zero, by omega]), if_neg (by omega)]
    rfl

theorem tenToFloat_whole {k : Nat} (h : k ≤ 15) : tenToFloat k = Float.ofNat (10 ^ k) := by
  have all : ∀ k : Fin 16, tenToFloat (k : Nat) = Float.ofNat (10 ^ (k : Nat)) := by
    decide +kernel
  exact all ⟨k, by omega⟩

end MeterSight
