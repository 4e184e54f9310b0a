import MeterSight.Proofs.DriftCompensation

/-!
# Open sides

The box of all regions of a recognizer knows only the sides that are given. A region with an open
side reaches to the edge of the photo, and that is gone once the photo is cut down to the box: if
the box ends before the region begins, nothing is left of it, and it passes for one outside of the
photo.
-/
namespace MeterSight

namespace Span

theorem ordered_of_high_eq_none {s : Span} (h : s.high = none) : s.Ordered := by
  simp [Ordered, h]

/-- One end of a stretch is open, and on that side the other stretch ends before it begins. -/
def OutOfReach (s around : Span) : Prop :=
  (s.high = none ∧ ∃ low ∈ s.low, ∃ stop ∈ around.high, stop ≤ low) ∨
    (s.low = none ∧ ∃ high ∈ s.high, ∃ start ∈ around.low, high ≤ start)

/-- The given ends of a stretch lie within another. -/
structure EndsWithin (s around : Span) : Prop where
  low_le : ∀ low ∈ s.low, ∃ start, around.low = some start ∧ start ≤ low
  le_high : ∀ high ∈ s.high, ∃ stop, around.high = some stop ∧ high ≤ stop

theorem endsWithin_union {spans : List Span} {s : Span} (mem : s ∈ spans) :
    s.EndsWithin (union spans) where
  low_le low given := by
    have among : low ∈ spans.filterMap Span.low := List.mem_filterMap.2 ⟨s, mem, given⟩
    obtain ⟨least, h⟩ := Option.isSome_iff_exists.1 (List.isSome_min?_of_mem among)
    exact ⟨least, h, (List.le_min?_iff h).1 (Nat.le_refl _) low among⟩
  le_high high given := by
    have among : high ∈ spans.filterMap Span.high := List.mem_filterMap.2 ⟨s, mem, given⟩
    obtain ⟨greatest, h⟩ := Option.isSome_iff_exists.1 (List.isSome_max?_of_mem among)
    exact ⟨greatest, h, (List.max?_le_iff h).1 (Nat.le_refl _) high among⟩

/-- A stretch and one around its given ends, each with a position in an image, share one unless
the stretch is out of reach. -/
theorem exists_shows_iff {s around : Span} (within : s.EndsWithin around) {shift : Int}
    {extent x y : Nat} (hx : x < extent) (shown : s.Shows shift x) (hy : y < extent)
    (inside : around.Shows shift y) :
    (∃ z : Nat, z < extent ∧ around.Shows shift z ∧ s.Shows shift z) ↔ ¬ s.OutOfReach around := by
  constructor
  · rintro ⟨z, -, ⟨above, below⟩, above', below'⟩
    rintro (⟨-, low, hl, stop, hs, le⟩ | ⟨-, high, hh, start, hs, le⟩)
    · have := above' low hl
      have := below stop hs
      omega
    · have := below' high hh
      have := above start hs
      omega
  intro reach
  obtain ⟨low, high⟩ := s
  obtain ⟨start, stop⟩ := around
  obtain ⟨low_le, le_high⟩ := within
  -- Where an end is given, the one around it is too. The common position is `x` unless an open end
  -- reaches beyond what is around; then it is the one next to the end that is given.
  cases low with
  | none =>
    cases high with
    | none => exact ⟨y, hy, inside, by simp [Shows]⟩
    | some high =>
      obtain ⟨stop, rfl, le⟩ := le_high high rfl
      cases start with
      | none =>
        refine ⟨x, hx, ?_, shown⟩
        simp [Shows] at shown ⊢
        omega
      | some start =>
        have less : start < high := by simpa [OutOfReach] using reach
        refine ⟨max x (start + shift).toNat, ?_⟩
        simp [Shows] at shown inside ⊢
        omega
  | some low =>
    obtain ⟨start, rfl, ge⟩ := low_le low rfl
    cases high with
    | none =>
      cases stop with
      | none =>
        refine ⟨x, hx, ?_, shown⟩
        simp [Shows] at shown ⊢
        omega
      | some stop =>
        have less : low < stop := by simpa [OutOfReach] using reach
        refine ⟨(low + shift).toNat, ?_⟩
        simp [Shows] at shown inside ⊢
        omega
    | some high =>
      obtain ⟨stop, rfl, le⟩ := le_high high rfl
      refine ⟨x, hx, ?_, shown⟩
      simp [Shows] at shown ⊢
      omega

/-- A placed stretch has an extent if and only if it shows a position of the part. -/
theorem place_ne_zero_iff (s : Span) (shift : Int) (origin extent : Nat) :
    (s.place shift origin extent).2 ≠ 0 ↔
      ∃ x, x < extent ∧ s.Shows shift (origin + x : Nat) := by
  have covers := s.mem_place_iff shift origin extent
  constructor
  · intro some
    exact ⟨_, (covers (s.place shift origin extent).1).1 ⟨Nat.le_refl _, by omega⟩⟩
  · rintro ⟨x, inside, shows⟩
    have := (covers x).2 ⟨inside, shows⟩
    omega

/-- What cutting an image down to several stretches leaves of one of them. -/
theorem place_union_ne_zero_iff {spans : List Span} {s : Span} (mem : s ∈ spans) {shift : Int}
    {extent : Nat} (pixels : (s.place shift 0 extent).2 ≠ 0)
    (around : ((union spans).place shift 0 extent).2 ≠ 0) :
    let part := (union spans).place shift 0 extent
    (s.place shift part.1 part.2).2 ≠ 0 ↔ ¬ s.OutOfReach (union spans) := by
  intro part
  obtain ⟨x, hx, shown⟩ := (place_ne_zero_iff ..).1 pixels
  obtain ⟨y, hy, inside⟩ := (place_ne_zero_iff ..).1 around
  rw [Nat.zero_add] at shown inside
  rw [place_ne_zero_iff, ← exists_shows_iff (endsWithin_union mem) hx shown hy inside]
  have covers (z : Nat) : (part.1 ≤ z ∧ z < part.1 + part.2) ↔
      z < extent ∧ (union spans).Shows shift z := by
    simpa using (union spans).mem_place_iff shift 0 extent z
  constructor
  · rintro ⟨z, less, shows⟩
    obtain ⟨hz, within⟩ := (covers (part.1 + z)).1 (by omega)
    exact ⟨part.1 + z, hz, within, shows⟩
  · rintro ⟨z, hz, within, shows⟩
    obtain ⟨le, less⟩ := (covers z).2 ⟨hz, within⟩
    exact ⟨z - part.1, by omega, by rwa [Nat.add_sub_cancel' le]⟩

end Span

namespace Bounds

/-- A side of a box is open, and on that side the other box ends before it begins. -/
def OutOfReach (b around : Bounds) : Prop :=
  b.horizontal.OutOfReach around.horizontal ∨ b.vertical.OutOfReach around.vertical

/-- What cutting an image down to several boxes leaves of one of them. -/
theorem isEmpty_rectIn_union_iff {all : List Bounds} {b : Bounds} (mem : b ∈ all)
    {offset : Offset} {width height : Nat} (pixels : ¬ (b.rect offset width height).IsEmpty)
    (around : ¬ ((union all).rect offset width height).IsEmpty) :
    let part := (union all).rect offset width height
    (b.rectIn offset part.left part.top part.width part.height).IsEmpty ↔
      b.OutOfReach (union all) := by
  intro part
  simp only [rect, rectIn, Rect.IsEmpty, not_or] at pixels around
  have horizontal := Span.place_union_ne_zero_iff (List.mem_map_of_mem mem) pixels.1 around.1
  have vertical := Span.place_union_ne_zero_iff (List.mem_map_of_mem mem) pixels.2 around.2
  exact or_congr (not_iff_not.1 horizontal) (not_iff_not.1 vertical)

end Bounds

/-! ## The size of the paper -/

/-- A stage that gives an image gives one of the same size. -/
def Stage.KeepsSize (s : Stage) : Prop :=
  ∀ img next, s.apply img = some next → next.width = img.width ∧ next.height = img.height

theorem Stage.size_result {stages : List Stage} (keep : ∀ s ∈ stages, s.KeepsSize)
    (img : GrayImage) :
    (result stages img).width = img.width ∧ (result stages img).height = img.height := by
  induction stages generalizing img with
  | nil => exact ⟨rfl, rfl⟩
  | cons s more ih =>
    obtain ⟨first, rest⟩ := List.forall_mem_cons.1 keep
    rw [result, List.foldl_cons]
    cases made : s.apply img with
    | none => exact ih rest img
    | some next =>
      obtain ⟨width, height⟩ := ih rest next
      exact ⟨width.trans (first img next made).1, height.trans (first img next made).2⟩

theorem keepsSize_of_mem_cleaningStages {c : GammaCurve} {s : Stage}
    (mem : s ∈ cleaningStages c) : s.KeepsSize := by
  have unlessEmpty {f : GrayImage → GrayImage}
      (keeps : ∀ img, (f img).width = img.width ∧ (f img).height = img.height) (img next)
      (made : Image.unlessEmpty f img = some next) :
      next.width = img.width ∧ next.height = img.height := by
    unfold Image.unlessEmpty at made
    split at made
    · contradiction
    · obtain rfl := Option.some.inj made
      exact keeps img
  simp only [cleaningStages, List.mem_cons, List.not_mem_nil, or_false] at mem
  rcases mem with rfl | rfl | rfl | rfl | rfl
  · intro img next made
    simp only [Image.applyGamma] at made
    split at made
    · contradiction
    · obtain rfl := Option.some.inj made
      exact ⟨rfl, rfl⟩
  · exact unlessEmpty fun img => ⟨rfl, rfl⟩
  · exact unlessEmpty fun img => ⟨rfl, rfl⟩
  · exact unlessEmpty fun img => ⟨by simp, by simp⟩
  · exact unlessEmpty fun img => ⟨rfl, rfl⟩

/-- Cleaning does not change the size of what is cut out. -/
theorem size_cleanImage (c : GammaCurve) (part : Option Rect) (photo : RgbaImage) :
    (cleanImage c part photo).width = (cutOut part photo).width ∧
      (cleanImage c part photo).height = (cutOut part photo).height :=
  Stage.size_result (fun _ => keepsSize_of_mem_cleaningStages) (cutOut part photo).toGray

theorem size_cutOut_some {photo : RgbaImage} {part : Rect} (pixels : ¬ part.IsEmpty)
    (inside : part.left + part.width ≤ photo.width ∧ part.top + part.height ≤ photo.height) :
    (cutOut (some part) photo).width = part.width ∧
      (cutOut (some part) photo).height = part.height := by
  obtain ⟨width, height, -⟩ :=
    pixel_cutOut (some part) photo (r := part) (by simp [Option.filter, pixels]) inside
  exact ⟨width, height⟩

namespace TextRecognizer
variable {r : TextRecognizer} {offset : Offset} {photo : RgbaImage}

theorem part?_eq_some_iff {part : Rect} :
    r.part? offset photo = some part ↔ ¬ (boundsOf r.regions).IsOpen ∧
      (boundsOf r.regions).rect offset photo.width photo.height = part ∧ ¬ part.IsEmpty := by
  simp only [part?]
  split
  · next all => simp [all]
  · next some =>
    simp only [Option.filter_eq_some_iff, Option.some.injEq, some, decide_not,
      Bool.not_eq_eq_eq_not, Bool.not_true, decide_eq_false_iff_not, not_false_eq_true, true_and]

theorem place_of_part?_eq_none (h : r.part? offset photo = none) (region : Region) :
    r.place photo offset region = region.bounds.rect offset photo.width photo.height := by
  obtain ⟨width, height⟩ : (r.paper photo offset).width = photo.width ∧
      (r.paper photo offset).height = photo.height := by
    rw [paper, h]
    exact size_cleanImage r.curve none photo
  simp only [place, searchRect, h, Option.elim_none, width, height, Bounds.rect]

theorem place_of_part?_eq_some {part : Rect} (h : r.part? offset photo = some part)
    (region : Region) : r.place photo offset region =
      region.bounds.rectIn offset part.left part.top part.width part.height := by
  obtain ⟨-, rect, pixels⟩ := part?_eq_some_iff.1 h
  have inside : part.left + part.width ≤ photo.width ∧ part.top + part.height ≤ photo.height :=
    rect ▸ Bounds.rectIn_le (boundsOf r.regions) offset 0 0 photo.width photo.height
  obtain ⟨width, height⟩ := size_cleanImage r.curve (some part) photo
  rw [(size_cutOut_some pixels inside).1] at width
  rw [(size_cutOut_some pixels inside).2] at height
  simp only [place, paper, searchRect, h, Option.elim_some, width, height]

/-- A region with pixels in the photo loses all of them if and only if the photo is cut down to a
box that ends before the region begins, on a side where the region is open. -/
theorem isEmpty_place_iff {region : Region} (mem : region ∈ r.regions)
    (pixels : ¬ (region.bounds.rect offset photo.width photo.height).IsEmpty) :
    (r.place photo offset region).IsEmpty ↔
      r.part? offset photo ≠ none ∧ region.bounds.OutOfReach (boundsOf r.regions) := by
  cases h : r.part? offset photo with
  | none => simpa [place_of_part?_eq_none h] using pixels
  | some part =>
    obtain ⟨-, rfl, around⟩ := part?_eq_some_iff.1 h
    rw [place_of_part?_eq_some h]
    have left := Bounds.isEmpty_rectIn_union_iff (List.mem_map_of_mem mem) pixels around
    exact left.trans (by simp [boundsOf])

end TextRecognizer

namespace Sample

/-- All of a photo from a column on. -/
def fromColumn (low : Nat) : Region :=
  { region with
    bounds := ⟨⟨some low, none⟩, .whole⟩
    ordered_horizontal := Span.ordered_of_high_eq_none rfl
    ordered_vertical := Span.ordered_whole }

/-- A region open to the right has pixels in the photo, but no place beside a box on its left. -/
theorem isEmpty_place_fromColumn :
    let near := boxed 1 0 5 4 (by decide) (by decide)
    let r : TextRecognizer := { recognizer near "eng" with
      regions := [near, fromColumn 8]
      regions_ne_nil := List.cons_ne_nil _ _ }
    let photo : RgbaImage := Image.filled 12 4 ⟨255, 255, 255, 255⟩
    (fromColumn 8).bounds.rect .zero photo.width photo.height = ⟨8, 0, 4, 4⟩ ∧
      (r.place photo .zero (fromColumn 8)).IsEmpty := by
  intro near r photo
  have pixels : ¬ ((fromColumn 8).bounds.rect .zero photo.width photo.height).IsEmpty := by decide
  have cut : r.part? .zero photo ≠ none := by decide
  have beyond : (fromColumn 8).bounds.OutOfReach (boundsOf r.regions) :=
    .inl (.inl ⟨rfl, 8, rfl, 5, by decide, by decide⟩)
  have mem : fromColumn 8 ∈ r.regions := by simp [r]
  exact ⟨by decide, (r.isEmpty_place_iff mem pixels).2 ⟨cut, beyond⟩⟩

end Sample
end MeterSight
