import MeterSight.Proofs.NearestWhole

/-!
# Nearest doubles

Rounding a number to a double gives a double that is as near to it as any, and of two that are as
near the one with the even last place.
-/
namespace MeterSight
open Float.Model Float.Model.UnpackedFloat

/-! ### Rounding to doubles -/

/-- The number that an unpacked double stands for. -/
def realValue? : UnpackedFloat → Option ℚ
  | .zero _ => some 0
  | .finite s m e _ => some (s.apply m * 2 ^ e)
  | _ => none

theorem exactValue?_eq (x : Float) : exactValue? x = realValue? x.toModel.unpack := by
  unfold exactValue? realValue?
  split <;> simp_all

/-- The last place that a double has for a number of this size. -/
def lastPlace (m : Nat) (e : Int) : Int := max (m.log2 + e - 52) (-1074)

/-- A number is rounded to a whole number of last places. If that takes one place more than there
are, the last one is zero. -/
structure IsRounded (v : ℚ) (p : Int) (r : Nat) (u : UnpackedFloat) : Prop where
  least : -1074 ≤ p
  nearest : IsNearestWhole r (v / 2 ^ p)
  bound : r ≤ 2 ^ 53
  full : p = -1074 ∨ 2 ^ 52 ≤ r ∧ 2 ^ 52 ≤ v / 2 ^ p
  zero : r = 0 → u = .zero .positive
  finite : 0 < r → r < 2 ^ 53 → ∃ h, u = .finite .positive r p h
  carried : r = 2 ^ 53 → ∃ h, u = .finite .positive (2 ^ 52) (p + 1) h

section digits
variable {m : Nat} {e : Int}

theorem add_droppedPlaces (low : e ≤ lastPlace m e) : e + droppedPlaces m e = lastPlace m e := by
  rw [droppedPlaces_eq]
  unfold lastPlace at low ⊢
  omega

/-- The digits that are left fit a double. -/
theorem div_droppedPlaces_lt (m : Nat) (e : Int) : m / 2 ^ droppedPlaces m e < 2 ^ 53 := by
  by_cases none : m / 2 ^ droppedPlaces m e = 0
  · omega
  · refine (Nat.log2_lt none).1 ?_
    have places := droppedPlaces_eq m e
    rw [log2_div_two_pow]
    omega

/-- Above the least place of all, they fill one. -/
theorem le_div_droppedPlaces (low : e ≤ lastPlace m e) (above : lastPlace m e ≠ -1074) :
    2 ^ 52 ≤ m / 2 ^ droppedPlaces m e := by
  have length : (m / 2 ^ droppedPlaces m e).log2 = 52 := by
    have places := droppedPlaces_eq m e
    rw [log2_div_two_pow]
    unfold lastPlace at low above
    omega
  have some : m / 2 ^ droppedPlaces m e ≠ 0 := fun none => by simp [none] at length
  exact length ▸ Nat.log2_self_le some

theorem droppedPlaces_of_small (least : -1074 ≤ e) (small : m < 2 ^ 53) : droppedPlaces m e = 0 := by
  have := log2_lt_of_small small
  rw [droppedPlaces_eq]
  omega

theorem droppedPlaces_of_carried (least : -1074 ≤ e) : droppedPlaces (2 ^ 53) e = 1 := by
  rw [droppedPlaces_eq, Nat.log2_two_pow]
  omega

/-- Digits that reach down to the last place are rounded there. -/
theorem exists_isRounded {a : Accuracy} {x : ℚ}
    (told : Represents (.ofMantissaAndAccuracy m a) x) (low : e ≤ lastPlace m e) :
    ∃ r, IsRounded (x * 2 ^ e) (lastPlace m e) r
      (roundWithAccuracy .binary64 .positive m e a) := by
  have least : -1074 ≤ lastPlace m e := le_max_right _ _
  have eq := roundWithAccuracy_eq .positive m e a
  have last := add_droppedPlaces low
  have few := div_droppedPlaces_lt m e
  have full := le_div_droppedPlaces low
  generalize droppedPlaces m e = k at *
  dsimp only at eq
  rw [last] at eq
  have shifted := told.shiftRight k
  have place : x * 2 ^ e / 2 ^ lastPlace m e = x / 2 ^ k := by
    rw [← last, zpow_add₀ (by norm_num), zpow_natCast]
    field_simp
  have digits : (ExtendedMantissa.ofMantissaAndAccuracy m a >>> k).mantissa = m / 2 ^ k := by
    rw [mantissa_shiftRight, mantissa_ofMantissaAndAccuracy]
  have floor := shifted.mantissa_le
  have nearest := shifted.isNearestWhole
  have counted := roundedMantissa_eq_or (ExtendedMantissa.ofMantissaAndAccuracy m a >>> k)
  rw [← place] at floor nearest
  rw [digits] at floor counted
  generalize (ExtendedMantissa.ofMantissaAndAccuracy m a >>> k).roundedMantissa = r at *
  refine ⟨r, least, nearest, by omega, ?_, ?_, ?_, ?_⟩
  · refine or_iff_not_imp_left.2 fun above => ⟨?_, ?_⟩
    · have := full above
      omega
    · exact le_trans (by exact_mod_cast full above) floor
  · rintro rfl
    simpa using eq
  · intro some small
    rw [droppedPlaces_of_small least small, dif_neg (by omega)] at eq
    exact ⟨some, by simpa using eq⟩
  · rintro rfl
    rw [droppedPlaces_of_carried least] at eq
    exact ⟨_, eq⟩

end digits

/-! ### Packing -/

/-- A double as it is kept is packed without loss. -/
theorem unpack_pack {s : Sign} {m : Nat} {e : Int} (h : 0 < m) (small : m < 2 ^ 53)
    (low : -1074 ≤ e) (high : e ≤ 971) (full : e = -1074 ∨ 2 ^ 52 ≤ m) :
    (Float.Model.pack (.finite s m e h)).unpack = .finite s m e h := by
  by_cases wide : 2 ^ 52 ≤ m
  · exact unpack_pack_of_full h ((Nat.log2_eq_iff (by omega)).2 ⟨wide, small⟩) low (by omega)
  obtain rfl : e = -1074 := full.resolve_right wide
  have width : m.log2 < 52 := (Nat.log2_lt (by omega)).2 (by omega)
  have bias : (Format.binary64.exponentBias : Int) = 1023 := by decide
  have size : 2 ^ Format.binary64.exponentBits = 2048 := rfl
  have bits : Format.binary64.mantissaBits = 53 := rfl
  have packed : UnpackedFloat.pack .binary64 (.finite s m (-1074) h) =
      packComponents .binary64 s 0#11 (BitVec.ofNat 52 m) := by
    have mantissa : (Format.binary64.mantissaBitsWithoutImplicit : Int) = 52 := rfl
    simp only [UnpackedFloat.pack, bias, size, mantissa]
    rw [if_neg (by omega), if_neg (by omega)]
  show UnpackedFloat.unpack .binary64 (UnpackedFloat.pack .binary64 _) = _
  rw [packed]
  have shape := unpacks_packComponents s 0#11 (BitVec.ofNat 52 m)
  have digits : (BitVec.ofNat 52 m).toNat = m := by
    rw [BitVec.toNat_ofNat, Nat.mod_eq_of_lt (by omega)]
  rw [digits] at shape
  have infinite : infiniteMagnitude = 2047 * 2 ^ 52 := rfl
  have none : (0#11).toNat = 0 := rfl
  generalize UnpackedFloat.unpack .binary64 (packComponents .binary64 s 0#11 (.ofNat 52 m)) = u at *
  cases shape with
  | notANumber => omega
  | infinity => omega
  | zero => omega
  | @finite n e _ _ least =>
    obtain rfl : e = -1074 := by omega
    obtain rfl : n = m := by omega
    rfl

/-- Beyond the last exponent there is only infinity. -/
theorem pack_of_high {s : Sign} {m : Nat} {e : Int} (h : 0 < m) (high : 972 ≤ e) :
    Float.Model.pack (.finite s m e h) = .pack (.infinity s) := by
  have bias : (Format.binary64.exponentBias : Int) = 1023 := by decide
  have size : 2 ^ Format.binary64.exponentBits = 2048 := rfl
  have mantissa : (Format.binary64.mantissaBitsWithoutImplicit : Int) = 52 := rfl
  have packed : UnpackedFloat.pack .binary64 (.finite s m e h) =
      UnpackedFloat.pack .binary64 (.infinity s) := by
    simp only [UnpackedFloat.pack, bias, size, mantissa]
    rw [if_pos (by omega)]
  simp only [Float.Model.pack, packed]

/-! ### The doubles around a number -/

theorem abs_apply (s : Sign) (m : Nat) : |((s.apply m : ℤ) : ℚ)| = m := by
  cases s <;> simp [Sign.apply]

/-- A double is a multiple of a last place, or small beside it. -/
theorem whole_or_small {y : Float} {q : ℚ} (value : exactValue? y = some q) {e : Int}
    (least : -1074 ≤ e) :
    (∃ n : ℤ, q = n * 2 ^ e) ∨ -1074 < e ∧ |q| < 2 ^ 52 * 2 ^ e := by
  rw [exactValue?_eq] at value
  have shape := unpacks_toModel y
  generalize y.toModel.unpack = u at *
  cases shape with
  | notANumber => cases value
  | infinity => cases value
  | zero =>
    obtain rfl := Option.some.inj value
    exact .inl ⟨0, by simp⟩
  | @finite m f _ small low full =>
    obtain rfl := Option.some.inj value
    by_cases high : e ≤ f
    · obtain ⟨k, rfl⟩ : ∃ k : Nat, f = e + k := ⟨(f - e).toNat, by omega⟩
      refine .inl ⟨(signOf y).apply m * 2 ^ k, ?_⟩
      rw [zpow_add₀ (by norm_num), zpow_natCast]
      push_cast
      ring
    · refine .inr ⟨by omega, ?_⟩
      have unit : (0 : ℚ) < 2 ^ f := by positivity
      have digits : (m : ℚ) < 2 ^ 53 := by exact_mod_cast small
      calc |((signOf y).apply m : ℚ) * 2 ^ f|
          = m * 2 ^ f := by rw [abs_mul, abs_apply, abs_of_pos unit]
        _ < 2 ^ 53 * 2 ^ f := mul_lt_mul_of_pos_right digits unit
        _ = 2 ^ 52 * 2 ^ (f + 1) := by
          rw [zpow_add_one₀ (by norm_num)]
          ring
        _ ≤ 2 ^ 52 * 2 ^ e :=
          mul_le_mul_of_nonneg_left (zpow_le_zpow_right₀ (by norm_num) (by omega)) (by norm_num)

theorem nearest_of_whole {r : Nat} {e : Int} {v : ℚ} (least : -1074 ≤ e)
    (nearest : IsNearestWhole r (v / 2 ^ e)) (wide : e = -1074 ∨ 2 ^ 52 ≤ v / 2 ^ e) {y : Float}
    {q : ℚ} (value : exactValue? y = some q) :
    |r * 2 ^ e - v| ≤ |q - v| ∧ (|q - v| = |r * 2 ^ e - v| → q ≠ r * 2 ^ e → Even r) := by
  have unit : (0 : ℚ) < 2 ^ e := by positivity
  have scaled (n : ℚ) : |n * 2 ^ e - v| = |n - v / 2 ^ e| * 2 ^ e := by
    rw [← abs_of_pos unit, ← abs_mul, abs_of_pos unit, sub_mul, div_mul_cancel₀ _ unit.ne']
  rcases whole_or_small value least with ⟨n, rfl⟩ | ⟨above, small⟩
  · obtain ⟨le, even⟩ := nearest.le_whole n
    rw [scaled, scaled]
    refine ⟨mul_le_mul_of_nonneg_right le unit.le, fun tie apart => even ?_ ?_⟩
    · exact mul_right_cancel₀ unit.ne' tie
    · rintro eq
      exact apart (by rw [eq])
  · have above : 2 ^ 52 * 2 ^ e ≤ v := by
      rw [← le_div_iff₀ unit]
      exact wide.resolve_left above.ne'
    have closer : |r * 2 ^ e - v| < |q - v| := by
      calc |(r : ℚ) * 2 ^ e - v|
          ≤ |((2 ^ 52 : ℤ) : ℚ) * 2 ^ e - v| := by
            rw [scaled, scaled]
            exact mul_le_mul_of_nonneg_right (nearest.le_whole (2 ^ 52)).1 unit.le
        _ = v - 2 ^ 52 * 2 ^ e := by
            have whole : ((2 ^ 52 : ℤ) : ℚ) = 2 ^ 52 := by norm_num
            rw [whole, abs_sub_comm, abs_of_nonneg (sub_nonneg.2 above)]
        _ < v - q := sub_lt_sub_left ((le_abs_self q).trans_lt small) v
        _ ≤ |q - v| := by
            rw [abs_sub_comm]
            exact le_abs_self _
    exact ⟨closer.le, fun tie => absurd tie closer.ne'⟩

/-- What lies this far out is rounded to infinity: half a last place above the largest double. -/
def roundedAway : ℚ := (2 ^ 53 - 1 / 2) * 2 ^ 971

/-- No double is nearer to a number, and if another one is as near, the last place of this one is
even. Numbers too far out are infinite. -/
structure IsNearestDouble (v : ℚ) (x : Float) : Prop where
  finite : |v| < roundedAway → ∃ r, exactValue? x = some r ∧
    ∀ y q, exactValue? y = some q →
      |r - v| ≤ |q - v| ∧ (|q - v| = |r - v| → q ≠ r → Even (magnitude x))
  infinite : roundedAway ≤ |v| → x = Decimal.infinity (v < 0)

/-- What is packed without loss has the value and the last place that its digits tell. -/
theorem exactValue?_pack {m : Nat} {e : Int} (h : 0 < m) (small : m < 2 ^ 53) (low : -1074 ≤ e)
    (high : e ≤ 971) (full : e = -1074 ∨ 2 ^ 52 ≤ m) :
    exactValue? (.ofModel (.pack (.finite .positive m e h))) = some (m * 2 ^ e : ℚ) ∧
      (Even (magnitude (.ofModel (.pack (.finite .positive m e h)))) ↔ Even m) := by
  have kept : (Float.ofModel (.pack (.finite .positive m e h))).toModel.unpack =
      .finite .positive m e h := unpack_pack h small low high full
  have shape := unpacks_toModel (.ofModel (.pack (.finite .positive m e h)))
  rw [exactValue?_eq]
  rw [kept] at shape ⊢
  generalize signOf (.ofModel (.pack (.finite .positive m e h))) = s at shape
  cases shape with
  | finite _ _ _ bits =>
    refine ⟨by simp [realValue?, Sign.apply], ?_⟩
    rw [Nat.even_iff, Nat.even_iff]
    omega

namespace IsRounded
variable {v : ℚ} {p : Int} {r : Nat} {u : UnpackedFloat}

/-- What is small enough for a double is kept as it was rounded. -/
theorem exactValue?_eq (h : IsRounded v p r u) (fits : p ≤ 970 ∨ p = 971 ∧ r < 2 ^ 53) :
    exactValue? (.ofModel (.pack u)) = some (r * 2 ^ p : ℚ) ∧
      (Even (magnitude (.ofModel (.pack u))) ↔ Even r) := by
  obtain ⟨least, -, bound, full, zero, finite, carried⟩ := h
  rcases Nat.eq_zero_or_pos r with none | some
  · rw [zero none, none, Nat.cast_zero, zero_mul]
    exact ⟨rfl, by decide +kernel⟩
  by_cases small : r < 2 ^ 53
  · obtain ⟨pos, rfl⟩ := finite some small
    exact exactValue?_pack pos small least (by omega) (full.imp_right (·.1))
  · obtain rfl : r = 2 ^ 53 := by omega
    obtain ⟨pos, rfl⟩ := carried rfl
    obtain ⟨value, even⟩ := exactValue?_pack (e := p + 1) pos (by decide) (by omega) (by omega)
      (.inr (le_refl _))
    refine ⟨value.trans (congrArg Option.some ?_), even.trans (by decide)⟩
    rw [zpow_add_one₀ (by norm_num)]
    push_cast
    ring

theorem eq_infinity (h : IsRounded v p r u) (high : ¬ (p ≤ 970 ∨ p = 971 ∧ r < 2 ^ 53)) :
    Float.ofModel (.pack u) = Decimal.infinity false := by
  obtain ⟨least, -, bound, full, -, finite, carried⟩ := h
  have packed : Float.Model.pack u = .pack (.infinity .positive) := by
    by_cases small : r < 2 ^ 53
    · obtain ⟨pos, rfl⟩ := finite (by omega) small
      exact pack_of_high pos (by omega)
    · obtain ⟨pos, rfl⟩ := carried (by omega)
      exact pack_of_high pos (by omega)
  rw [packed]
  decide +kernel

/-- The bound for what becomes infinite. -/
theorem lt_iff (h : IsRounded v p r u) : v < roundedAway ↔ p ≤ 970 ∨ p = 971 ∧ r < 2 ^ 53 := by
  obtain ⟨least, nearest, bound, full, -⟩ := h
  have unit : (0 : ℚ) < 2 ^ p := by positivity
  obtain ⟨below, above⟩ := abs_le.1 nearest.near
  have most : (r : ℚ) ≤ 2 ^ 53 := by exact_mod_cast bound
  rcases lt_trichotomy p 971 with low | rfl | high
  · refine iff_of_true ?_ (.inl (by omega))
    have half : (2 : ℚ) ^ p ≤ 2 ^ 970 := by
      rw [← zpow_natCast]
      exact zpow_le_zpow_right₀ (by norm_num) (by omega)
    have small : v ≤ (2 ^ 53 + 1 / 2) * 2 ^ p := (div_le_iff₀ unit).1 (by linarith)
    have positive : (0 : ℚ) < 2 ^ 970 := by positivity
    rw [roundedAway, pow_succ (2 : ℚ) 970]
    generalize (2 : ℚ) ^ 970 = t at *
    linarith
  · have place : (2 : ℚ) ^ (971 : ℤ) = 2 ^ 971 := zpow_natCast 2 971
    rw [roundedAway, ← place, ← div_lt_iff₀ unit]
    constructor
    · intro small
      have less : (r : ℚ) < 2 ^ 53 := by linarith
      exact .inr ⟨rfl, by exact_mod_cast less⟩
    · rintro (low | ⟨-, less⟩)
      · omega
      have last : (r : ℚ) + 1 ≤ 2 ^ 53 := by exact_mod_cast Nat.succ_le_of_lt less
      -- Halfway to the next power of two a number is not rounded to the odd one.
      refine lt_of_le_of_ne (by linarith) fun tie => ?_
      have top : (r : ℚ) + 1 = 2 ^ 53 := by linarith
      have halfway : (r : ℚ) - v / 2 ^ (971 : ℤ) = -(1 / 2) := by linarith
      obtain ⟨k, even⟩ := nearest.even_of_tie (by rw [halfway]; norm_num)
      have odd : r + 1 = 2 ^ 53 := by exact_mod_cast top
      omega
  · refine iff_of_false (not_lt.2 ?_) (by omega)
    have double : (2 : ℚ) ^ 972 ≤ 2 ^ p := by
      rw [← zpow_natCast]
      exact zpow_le_zpow_right₀ (by norm_num) (by omega)
    have large : 2 ^ 52 * 2 ^ p ≤ v := (le_div_iff₀ unit).1 (full.resolve_left (by omega)).2
    have positive : (0 : ℚ) < 2 ^ 971 := by positivity
    rw [pow_succ] at double
    rw [roundedAway]
    generalize (2 : ℚ) ^ 971 = t at *
    linarith

theorem isNearestDouble (h : IsRounded v p r u) (nonneg : 0 ≤ v) :
    IsNearestDouble v (.ofModel (.pack u)) where
  finite small := by
    rw [abs_of_nonneg nonneg, h.lt_iff] at small
    obtain ⟨value, even⟩ := h.exactValue?_eq small
    refine ⟨_, value, fun y q other => ?_⟩
    rw [even]
    exact nearest_of_whole h.least h.nearest (h.full.imp_right (·.2)) other
  infinite large := by
    rw [abs_of_nonneg nonneg, ← not_lt, h.lt_iff] at large
    rw [h.eq_infinity large, decide_eq_false nonneg.not_gt]

end IsRounded

/-- Too small a number is nearest to zero. -/
theorem isNearestDouble_zero {v : ℚ} (nonneg : 0 ≤ v) (small : v ≤ 2 ^ (-1075 : ℤ)) :
    IsNearestDouble v 0.0 := by
  have half : |((0 : Nat) : ℚ) - v / 2 ^ (-1074 : ℤ)| ≤ 1 / 2 := by
    rw [Nat.cast_zero, zero_sub, abs_neg, abs_of_nonneg (by positivity), div_le_iff₀ (by positivity)]
    rwa [one_div, ← zpow_neg_one, ← zpow_add₀ (by norm_num)]
  have rounded : IsRounded v (-1074) 0 (.zero .positive) :=
    ⟨le_refl _, ⟨half, fun _ => Even.zero⟩, Nat.zero_le _, .inl rfl, fun _ => rfl, nofun, nofun⟩
  exact rounded.isNearestDouble nonneg

/-- Too large a number becomes infinite. -/
theorem isNearestDouble_infinity {v : ℚ} (large : roundedAway ≤ v) :
    IsNearestDouble v (Decimal.infinity false) := by
  have positive : 0 ≤ v := le_trans (by norm_num [roundedAway]) large
  rw [← abs_of_nonneg positive] at large
  refine ⟨fun small => absurd large (not_le.2 small), fun _ => ?_⟩
  rw [decide_eq_false positive.not_gt]

/-! ### Negative numbers -/

/-- The sign is all that changes. -/
theorem exactValue?_neg {x : Float} {q : ℚ} (value : exactValue? x = some q) :
    exactValue? (-x) = some (-q) ∧ magnitude (-x) = magnitude x := by
  have shape := unpacks_toModel x
  have shape' := unpacks_toModel (-x)
  rw [exactValue?_eq] at value ⊢
  have turned : (-x).toModel.unpack = (Float.Model.pack x.toModel.unpack.neg).unpack := rfl
  rw [turned] at shape' ⊢
  generalize x.toModel.unpack = u at *
  generalize signOf x = s at *
  generalize signOf (-x) = s' at *
  cases shape with
  | notANumber => cases value
  | infinity => cases value
  | zero none =>
    have kept : (Float.Model.pack (UnpackedFloat.zero s).neg).unpack = .zero (-s) := by
      cases s <;> rfl
    rw [kept] at shape' ⊢
    cases shape' with
    | zero none' =>
      obtain rfl := Option.some.inj value
      exact ⟨by rw [neg_zero]; rfl, none'.trans none.symm⟩
  | @finite m e h small low full bits bound =>
    have high : e ≤ 971 := by
      unfold infiniteMagnitude at bound
      omega
    have kept : (Float.Model.pack (.finite (-s) m e h)).unpack = .finite (-s) m e h :=
      unpack_pack h small low high full
    simp only [UnpackedFloat.neg] at shape' ⊢
    rw [kept] at shape' ⊢
    cases shape' with
    | finite _ _ _ bits' =>
      obtain rfl := Option.some.inj value
      refine ⟨?_, by omega⟩
      cases s <;> simp [realValue?, Sign.apply]

theorem IsNearestDouble.neg {v : ℚ} {x : Float} (h : IsNearestDouble v x) :
    IsNearestDouble (-v) (-x) where
  finite small := by
    rw [abs_neg] at small
    obtain ⟨r, value, nearest⟩ := h.finite small
    obtain ⟨value', same⟩ := exactValue?_neg value
    refine ⟨-r, value', fun y q other => ?_⟩
    have turned (a : ℚ) : |-a - -v| = |a - v| := by rw [neg_sub_neg, abs_sub_comm]
    have nearest := nearest (-y) (-q) (exactValue?_neg other).1
    rw [← turned (-q), neg_neg] at nearest
    rw [turned, same]
    exact ⟨nearest.1, fun tie apart => nearest.2 tie fun eq => apart (by rw [← eq, neg_neg])⟩
  infinite large := by
    rw [abs_neg] at large
    have some : v ≠ 0 := by
      rintro rfl
      rw [abs_zero] at large
      exact absurd large (by norm_num [roundedAway])
    rw [h.infinite large]
    rcases lt_or_gt_of_ne some with negative | positive
    · rw [decide_eq_true negative, decide_eq_false (by linarith)]
      decide +kernel
    · rw [decide_eq_false positive.not_gt, decide_eq_true (by linarith)]
      decide +kernel

end MeterSight
