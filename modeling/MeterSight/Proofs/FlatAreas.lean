import MeterSight.Cleaning

/-!
# Flat areas

An average over a square lies between the least and the greatest level in the square. So a pixel
with nothing but its own level around it keeps this level when it is smoothed, and it has no
contrast that could be strengthened. Beyond an edge of the image its edge pixels count, so that
this holds up to the border and in images smaller than the square.
-/
namespace MeterSight

/-! ## Averages -/

section sum
variable {f : Nat → Nat} {bound n : Nat}

theorem mul_le_sumBelow (h : ∀ k < n, bound ≤ f k) : n * bound ≤ sumBelow f n := by
  induction n with
  | zero => simp [sumBelow]
  | succ n ih =>
    have first := ih fun k less => h k (by omega)
    have last := h n (Nat.lt_succ_self n)
    rw [sumBelow, Nat.succ_mul]
    omega

theorem sumBelow_le_mul (h : ∀ k < n, f k ≤ bound) : sumBelow f n ≤ n * bound := by
  induction n with
  | zero => simp [sumBelow]
  | succ n ih =>
    have first := ih fun k less => h k (by omega)
    have last := h n (Nat.lt_succ_self n)
    rw [sumBelow, Nat.succ_mul]
    omega

end sum

/-- The rounded average of levels between two bounds lies between them, and so it is a level. -/
theorem average_between {f : Nat → UInt8} {low high : UInt8} {n : Nat} (some : 0 < n)
    (h : ∀ k < n, low ≤ f k ∧ f k ≤ high) :
    low ≤ UInt8.ofNat (sumBelow (fun k => (f k).toNat) n / n) ∧
      UInt8.ofNat (sumBelow (fun k => (f k).toNat) n / n) ≤ high := by
  have above : n * low.toNat ≤ sumBelow (fun k => (f k).toNat) n :=
    mul_le_sumBelow fun k less => (h k less).1
  have below : sumBelow (fun k => (f k).toNat) n ≤ n * high.toNat :=
    sumBelow_le_mul fun k less => (h k less).2
  have least : low.toNat ≤ sumBelow (fun k => (f k).toNat) n / n := by
    rwa [Nat.le_div_iff_mul_le some, Nat.mul_comm]
  have greatest : sumBelow (fun k => (f k).toNat) n / n ≤ high.toNat :=
    Nat.div_le_of_le_mul below
  have level := high.toNat_lt
  rw [UInt8.le_iff_toNat_le, UInt8.le_iff_toNat_le, UInt8.toNat_ofNat', Nat.mod_eq_of_lt (by omega)]
  exact ⟨least, greatest⟩

/-! ## Squares around a pixel -/

/-- The coordinate below `n` that is nearest to a whole number. -/
def nearestBelow (n : Nat) (i : Int) : Nat := (max 0 (min i (n - 1))).toNat

theorem windowIndex_eq (n radius i k : Nat) :
    windowIndex n radius i k = nearestBelow n (i + (k - radius : Int)) := by
  simp only [windowIndex, nearestBelow]
  omega

namespace Image

/-- All levels up to `radius` columns and rows away from a pixel lie between two bounds. Instead of
a pixel beyond the edge, the nearest one of the image counts. -/
def IsBetween (img : GrayImage) (radius x y : Nat) (low high : UInt8) : Prop :=
  ∀ dx dy : Int, dx.natAbs ≤ radius → dy.natAbs ≤ radius →
    low ≤ img.pixel (nearestBelow img.width (x + dx)) (nearestBelow img.height (y + dy)) ∧
      img.pixel (nearestBelow img.width (x + dx)) (nearestBelow img.height (y + dy)) ≤ high

/-- There is only one level up to `radius` columns and rows away from a pixel. -/
def IsFlat (img : GrayImage) (radius x y : Nat) (level : UInt8) : Prop :=
  ∀ dx dy : Int, dx.natAbs ≤ radius → dy.natAbs ≤ radius →
    img.pixel (nearestBelow img.width (x + dx)) (nearestBelow img.height (y + dy)) = level

variable {img : GrayImage} {radius x y : Nat} {low high level : UInt8}

theorem IsFlat.isBetween (h : img.IsFlat radius x y level) :
    img.IsBetween radius x y level level := by
  intro dx dy near near'
  rw [h dx dy near near']
  exact ⟨UInt8.le_refl level, UInt8.le_refl level⟩

/-- The pixel itself is not away from itself. -/
theorem IsFlat.pixel_eq (h : img.IsFlat radius x y level) (hx : x < img.width)
    (hy : y < img.height) : img.pixel x y = level := by
  have column : nearestBelow img.width (x + 0) = x := by simp only [nearestBelow]; omega
  have row : nearestBelow img.height (y + 0) = y := by simp only [nearestBelow]; omega
  have own := h 0 0 (Nat.zero_le _) (Nat.zero_le _)
  rwa [column, row] at own

/-- The average over a square lies between the bounds of the levels in it. -/
theorem IsBetween.pixel_boxAverage (h : img.IsBetween radius x y low high) (hx : x < img.width)
    (hy : y < img.height) :
    low ≤ (img.boxAverage radius).pixel x y ∧ (img.boxAverage radius).pixel x y ≤ high := by
  -- First each row of the square on its own, then the column of their averages.
  have row (k : Nat) (hk : k < 2 * radius + 1) :
      let y' := windowIndex img.height radius y k
      low ≤ (img.averageRows radius).pixel x y' ∧ (img.averageRows radius).pixel x y' ≤ high := by
    intro y'
    have inside : y' < img.height := windowIndex_lt radius y k (by omega)
    rw [averageRows, pixel_ofFn _ hx inside]
    refine average_between (by omega) fun j hj => ?_
    simp only [y', windowIndex_eq]
    exact h _ _ (by omega) (by omega)
  have width : x < (img.averageRows radius).width := hx
  have height : y < (img.averageRows radius).height := hy
  rw [boxAverage, averageColumns, pixel_ofFn _ width height]
  exact average_between (by omega) row

theorem IsFlat.pixel_boxAverage (h : img.IsFlat radius x y level) (hx : x < img.width)
    (hy : y < img.height) : (img.boxAverage radius).pixel x y = level := by
  obtain ⟨above, below⟩ := h.isBetween.pixel_boxAverage hx hy
  exact UInt8.le_antisymm below above

/-- Without contrast nothing is strengthened. -/
theorem sharpened_self (v : UInt8) : sharpened v v = v := by
  have level := v.toNat_lt
  apply UInt8.toNat_inj.1
  rw [sharpened, UInt8.toNat_ofNat']
  omega

/-- Both filters that look at the surroundings of a pixel keep the size of an image with pixels, and
leave every pixel as it is that has no other level around it. -/
theorem flat_areas_stay_flat (img : GrayImage) (pixels : ¬ img.IsEmpty) :
    ∃ sharp soft : GrayImage, img.sharpen = some sharp ∧ img.smooth = some soft ∧
      (sharp.width = img.width ∧ sharp.height = img.height) ∧
      (soft.width = img.width ∧ soft.height = img.height) ∧
      ∀ x y level, x < img.width → y < img.height →
        (img.IsFlat 3 x y level → sharp.pixel x y = level) ∧
          (img.IsFlat 1 x y level → soft.pixel x y = level) := by
  refine ⟨_, _, if_neg pixels, if_neg pixels, ⟨rfl, rfl⟩, ⟨rfl, rfl⟩, ?_⟩
  intro x y level hx hy
  constructor
  · intro flat
    rw [pixel_ofFn _ hx hy, flat.pixel_eq hx hy, flat.pixel_boxAverage hx hy]
    exact sharpened_self level
  · intro flat
    exact flat.pixel_boxAverage hx hy

end Image

namespace Sample

/-- One row of dark pixels, and a bright one at its end. -/
def darkRow : GrayImage := Image.ofFn 5 1 fun x _ => if x < 4 then 7 else 200

theorem isFlat_darkRow {radius x : Nat} (near : x + radius < 4) : darkRow.IsFlat radius x 0 7 := by
  intro dx dy hdx hdy
  have column : nearestBelow 5 (x + dx) < 4 := by simp only [nearestBelow]; omega
  have row : nearestBelow 1 ((0 : Nat) + dy) < 1 := by simp only [nearestBelow]; omega
  have level := Image.pixel_ofFn (w := 5) (h := 1)
    (fun x _ => if x < 4 then (7 : UInt8) else 200) (by omega : nearestBelow 5 (x + dx) < 5) row
  exact level.trans (if_pos column)

/-- The row is smaller than a square in either direction. At its dark end nothing changes. -/
theorem flat_areas_stay_flat_darkRow :
    ¬ darkRow.IsEmpty ∧ darkRow.IsFlat 3 0 0 7 ∧ darkRow.IsFlat 1 2 0 7 ∧
      ∃ sharp soft : GrayImage, darkRow.sharpen = some sharp ∧ darkRow.smooth = some soft ∧
        sharp.pixel 0 0 = 7 ∧ soft.pixel 2 0 = 7 := by
  have pixels : ¬ darkRow.IsEmpty := by decide
  have wide : darkRow.IsFlat 3 0 0 7 := isFlat_darkRow (by decide)
  have narrow : darkRow.IsFlat 1 2 0 7 := isFlat_darkRow (by decide)
  obtain ⟨sharp, soft, sharpens, smooths, -, -, keeps⟩ := darkRow.flat_areas_stay_flat pixels
  exact ⟨pixels, wide, narrow, sharp, soft, sharpens, smooths,
    (keeps 0 0 7 (by decide) (by decide)).1 wide, (keeps 2 0 7 (by decide) (by decide)).2 narrow⟩

end Sample
end MeterSight
