import MeterSight.Proofs.FiniteDouble

/-!
# Nearest whole numbers

Digits with two bits behind them tell of a number what rounding needs: whether the rest is nothing,
less than a half, a half or more. Dropping places keeps that, and so does dividing.
-/
namespace MeterSight
open Float.Model Float.Model.UnpackedFloat

/-! ### Rounding -/

/-- Digits with two bits behind them tell of a number what rounding needs. -/
structure Represents (em : ExtendedMantissa) (x : ℚ) : Prop where
  mantissa_le : em.mantissa ≤ x
  lt_succ : x < em.mantissa + 1
  roundBit_iff : em.roundBit = true ↔ em.mantissa + 1 / 2 ≤ x
  stickyBit_iff : em.stickyBit = true ↔ x ≠ em.mantissa ∧ x ≠ em.mantissa + 1 / 2

/-- The nearest whole number, and of two the even one. -/
structure IsNearestWhole (r : Nat) (x : ℚ) : Prop where
  near : |r - x| ≤ 1 / 2
  even_of_tie : |r - x| = 1 / 2 → Even r

theorem IsNearestWhole.of_lt {r : Nat} {x : ℚ} (close : |r - x| < 1 / 2) : IsNearestWhole r x :=
  ⟨close.le, fun tie => absurd tie close.ne⟩

/-- No whole number is nearer, and one that is as near comes with an even one. -/
theorem IsNearestWhole.le_whole {r : Nat} {x : ℚ} (h : IsNearestWhole r x) (n : ℤ) :
    |r - x| ≤ |n - x| ∧ (|n - x| = |r - x| → (n : ℚ) ≠ r → Even r) := by
  by_cases same : (n : ℚ) = r
  · rw [same]
    exact ⟨le_refl _, fun _ apart => absurd rfl apart⟩
  · have step : 1 ≤ |(n : ℚ) - r| := by
      have whole : n - (r : ℤ) ≠ 0 := fun eq => same (by exact_mod_cast sub_eq_zero.1 eq)
      exact_mod_cast Int.one_le_abs whole
    have path : |(n : ℚ) - r| ≤ |n - x| + |r - x| := by
      rw [abs_sub_comm (r : ℚ) x]
      exact abs_sub_le _ _ _
    have near := h.near
    exact ⟨by linarith, fun tie _ => h.even_of_tie (by linarith)⟩

namespace Represents
variable {em : ExtendedMantissa} {x : ℚ}

theorem whole (m : Nat) : Represents (.ofMantissaAndAccuracy m .exact) m where
  mantissa_le := le_refl _
  lt_succ := lt_add_one _
  roundBit_iff := iff_of_false Bool.false_ne_true (by simp [ExtendedMantissa.ofMantissaAndAccuracy])
  stickyBit_iff := iff_of_false Bool.false_ne_true (by simp [ExtendedMantissa.ofMantissaAndAccuracy])

theorem shiftRightOne (h : Represents em x) : Represents em.shiftRightOne (x / 2) := by
  obtain ⟨low, high, roundBit, stickyBit⟩ := h
  have digits : (em.mantissa : ℚ) = 2 * (em.mantissa / 2 : Nat) + (em.mantissa % 2 : Nat) := by
    exact_mod_cast (Nat.div_add_mod em.mantissa 2).symm
  have apart : (em.roundBit || em.stickyBit) = true ↔ x ≠ em.mantissa := by
    rw [Bool.or_eq_true, roundBit, stickyBit]
    constructor
    · rintro (half | ⟨apart, -⟩) eq
      · linarith
      · exact apart eq
    · intro apart
      by_cases half : em.mantissa + 1 / 2 ≤ x
      · exact .inl half
      · exact .inr ⟨apart, fun eq => half eq.symm.le⟩
  -- The last place is the new bit behind the digits, and whatever was behind it sticks.
  rcases Nat.mod_two_eq_zero_or_one em.mantissa with last | last
  · rw [last, Nat.cast_zero, add_zero] at digits
    refine ⟨?_, ?_, ?_, ?_⟩ <;> simp only [ExtendedMantissa.shiftRightOne, last, apart]
    · linarith
    · linarith
    · simp
      linarith
    · constructor
      · intro apart
        exact ⟨fun eq => apart (by linarith), fun eq => by linarith⟩
      · rintro ⟨apart, -⟩ eq
        exact apart (by linarith)
  · rw [last, Nat.cast_one] at digits
    refine ⟨?_, ?_, ?_, ?_⟩ <;> simp only [ExtendedMantissa.shiftRightOne, last, apart]
    · linarith
    · linarith
    · simp
      linarith
    · constructor
      · intro apart
        exact ⟨fun eq => by linarith, fun eq => apart (by linarith)⟩
      · rintro ⟨-, apart⟩ eq
        exact apart (by linarith)

theorem shiftRight (h : Represents em x) (k : Nat) : Represents (em >>> k) (x / 2 ^ k) := by
  induction k with
  | zero => simpa [HShiftRight.hShiftRight, Nat.repeat] using h
  | succ k ih =>
    rw [pow_succ, ← div_div]
    exact ih.shiftRightOne

theorem isNearestWhole (h : Represents em x) : IsNearestWhole em.roundedMantissa x := by
  obtain ⟨m, roundBit, stickyBit⟩ := em
  obtain ⟨low, high, half, apart⟩ := h
  simp only at low high half apart
  cases roundBit <;> cases stickyBit
  · show IsNearestWhole m x
    have whole : x = m := by
      by_contra off
      exact Bool.false_ne_true (apart.2 ⟨off, fun eq => Bool.false_ne_true (half.2 eq.symm.le)⟩)
    exact .of_lt (by simp [whole])
  · show IsNearestWhole m x
    have less : x < m + 1 / 2 := lt_of_not_ge fun le => Bool.false_ne_true (half.2 le)
    exact .of_lt (abs_lt.2 ⟨by linarith, by linarith⟩)
  · show IsNearestWhole (m + m % 2) x
    have middle : x = m + 1 / 2 := by
      by_contra off
      have more := half.1 rfl
      exact Bool.false_ne_true (apart.2 ⟨fun eq => by linarith, off⟩)
    have even : Even (m + m % 2) := Nat.even_iff.2 (by omega)
    refine ⟨?_, fun _ => even⟩
    rcases Nat.mod_two_eq_zero_or_one m with last | last <;> rw [last, middle, abs_le] <;>
      push_cast <;> constructor <;> linarith
  · show IsNearestWhole (m + 1) x
    have more := half.1 rfl
    have less : m + 1 / 2 < x := lt_of_le_of_ne more (apart.1 rfl).2.symm
    exact .of_lt (abs_lt.2 ⟨by push_cast; linarith, by push_cast; linarith⟩)

end Represents

/-! ### Quotients -/

/-- Digits with the place of the rest among nothing, half and one. -/
theorem Represents.inexact (m : Nat) {q : ℚ} (some : 0 < q) (part : q < 1) {o : Ordering}
    (half : o.Compares q (1 / 2)) : Represents (.ofMantissaAndAccuracy m (.inexact o)) (m + q) := by
  cases o <;> simp only [Ordering.Compares] at half <;> refine ⟨?_, ?_, ?_, ?_⟩ <;>
    simp [ExtendedMantissa.ofMantissaAndAccuracy] <;> grind

/-- What is left over in a division tells on which side of the middle the quotient lies. -/
theorem Represents.quotient (n : Nat) {d : Nat} (h : 0 < d) :
    Represents (.ofMantissaAndAccuracy (n / d) (accuracyOfFraction (n % d) d)) (n / d : ℚ) := by
  have positive : (0 : ℚ) < d := by exact_mod_cast h
  have rest : (n : ℚ) = d * (n / d : Nat) + (n % d : Nat) := by
    exact_mod_cast (Nat.div_add_mod n d).symm
  have split : (n / d : ℚ) = (n / d : Nat) + (n % d : Nat) / d := by
    rw [div_eq_iff positive.ne', add_mul, div_mul_cancel₀ _ positive.ne']
    linarith
  rw [split]
  by_cases none : n % d = 0
  · rw [none, Nat.cast_zero, zero_div, add_zero]
    exact .whole _
  · rw [accuracyOfFraction, if_neg none]
    refine .inexact _ (div_pos (by exact_mod_cast Nat.pos_of_ne_zero none) positive)
      ((div_lt_one positive).2 (by exact_mod_cast Nat.mod_lt n h)) ?_
    have told : (compare (2 * (n % d)) d).Compares (2 * (n % d)) d := (compare_iff _ _).1 rfl
    -- Both sides are compared after they are multiplied by twice the divisor.
    generalize compare (2 * (n % d)) d = o at *
    cases o <;> simp only [Ordering.Compares] at told ⊢
    · rw [div_lt_div_iff₀ positive two_pos]
      exact_mod_cast (by omega : n % d * 2 < 1 * d)
    · rw [div_eq_div_iff positive.ne' two_ne_zero]
      exact_mod_cast (by omega : n % d * 2 = 1 * d)
    · rw [gt_iff_lt, div_lt_div_iff₀ two_pos positive]
      exact_mod_cast (by omega : 1 * d < n % d * 2)

end MeterSight
