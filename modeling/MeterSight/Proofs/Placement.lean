import MeterSight.Region

/-!
# Placement of regions

A moved stretch shows a set of positions of the photo, whatever part of the photo it is placed in.
Placing a region in a part therefore gives the pixels that the region has in the photo, as far as
they lie in the part. Cutting the photo down to the box of all regions takes no pixel from a region
that is bounded on all sides.
-/
namespace MeterSight

namespace Span

/-- Both ends are given. -/
def IsBounded (s : Span) : Prop := s.low.isSome ∧ s.high.isSome

instance (s : Span) : Decidable s.IsBounded := inferInstanceAs (Decidable (_ ∧ _))

/-- The position `x` of the photo lies on the stretch after it has moved. -/
def Shows (s : Span) (shift x : Int) : Prop :=
  (∀ low ∈ s.low, low + shift ≤ x) ∧ ∀ high ∈ s.high, x < high + shift

theorem le_start_iff {low : Option Nat} {shift : Int} {origin extent x : Nat} (hx : x < extent) :
    low.elim 0 (locate shift origin extent) ≤ x ↔ ∀ v ∈ low, v + shift ≤ (origin + x : Nat) := by
  cases low with
  | none => simp
  | some v =>
    simp only [Option.elim_some, locate, Option.mem_def, Option.some.injEq, forall_eq']
    omega

theorem lt_stop_iff (high : Option Nat) (shift : Int) (origin extent x : Nat) :
    x < high.elim extent (locate shift origin extent) ↔
      x < extent ∧ ∀ v ∈ high, (origin + x : Nat) < v + shift := by
  cases high with
  | none => simp
  | some v =>
    simp only [Option.elim_some, locate, Option.mem_def, Option.some.injEq, forall_eq']
    omega

/-- A placed stretch covers the positions inside the part that it shows of the photo. -/
theorem mem_place_iff (s : Span) (shift : Int) (origin extent x : Nat) :
    ((s.place shift origin extent).1 ≤ x ∧
        x < (s.place shift origin extent).1 + (s.place shift origin extent).2) ↔
      x < extent ∧ s.Shows shift (origin + x : Nat) := by
  have stop := lt_stop_iff s.high shift origin extent x
  constructor
  · rintro ⟨hl, hr⟩
    simp only [place] at hl hr
    obtain ⟨inside, below⟩ := stop.mp (by omega)
    exact ⟨inside, (le_start_iff inside).mp hl, below⟩
  · rintro ⟨inside, above, below⟩
    have hl := (le_start_iff inside).mpr above
    have hr := stop.mpr ⟨inside, below⟩
    simp only [place]
    omega

/-- Only the distance from the origin to the moved coordinates counts. -/
theorem place_eq_of_sub_eq (s : Span) {shift shift' : Int} {origin origin' : Nat} (extent : Nat)
    (h : shift - origin = shift' - origin') :
    s.place shift origin extent = s.place shift' origin' extent := by
  have same : locate shift origin extent = locate shift' origin' extent := by
    funext v
    unfold locate
    congr 2
    omega
  simp only [place, same]

theorem shows_union {spans : List Span} {s : Span} (mem : s ∈ spans) (bounded : s.IsBounded)
    {shift x : Int} (h : s.Shows shift x) : (union spans).Shows shift x := by
  obtain ⟨low, hl⟩ := Option.isSome_iff_exists.mp bounded.1
  obtain ⟨high, hr⟩ := Option.isSome_iff_exists.mp bounded.2
  constructor
  · intro least hleast
    have le := (List.le_min?_iff hleast).mp (Nat.le_refl _) low
      (List.mem_filterMap.mpr ⟨s, mem, hl⟩)
    have := h.1 low hl
    omega
  · intro greatest hgreatest
    have le := (List.max?_le_iff hgreatest).mp (Nat.le_refl _) high
      (List.mem_filterMap.mpr ⟨s, mem, hr⟩)
    have := h.2 high hr
    omega

end Span

namespace Bounds

/-- All four sides are given. -/
def IsBounded (b : Bounds) : Prop := b.horizontal.IsBounded ∧ b.vertical.IsBounded

instance (b : Bounds) : Decidable b.IsBounded := inferInstanceAs (Decidable (_ ∧ _))

/-- The pixel of the photo lies in the box after it has moved. -/
def Shows (b : Bounds) (offset : Offset) (x y : Int) : Prop :=
  b.horizontal.Shows offset.dx x ∧ b.vertical.Shows offset.dy y

theorem contains_rectIn_iff (b : Bounds) (offset : Offset) (left top width height x y : Nat) :
    (b.rectIn offset left top width height).Contains x y ↔
      (x < width ∧ y < height) ∧ b.Shows offset (left + x : Nat) (top + y : Nat) := by
  have h := b.horizontal.mem_place_iff offset.dx left width x
  have v := b.vertical.mem_place_iff offset.dy top height y
  simp only [Rect.Contains, rectIn, Shows]
  constructor
  · rintro ⟨x₁, x₂, y₁, y₂⟩
    obtain ⟨insideX, showsX⟩ := h.mp ⟨x₁, x₂⟩
    obtain ⟨insideY, showsY⟩ := v.mp ⟨y₁, y₂⟩
    exact ⟨⟨insideX, insideY⟩, showsX, showsY⟩
  · rintro ⟨⟨insideX, insideY⟩, showsX, showsY⟩
    obtain ⟨x₁, x₂⟩ := h.mpr ⟨insideX, showsX⟩
    obtain ⟨y₁, y₂⟩ := v.mpr ⟨insideY, showsY⟩
    exact ⟨x₁, x₂, y₁, y₂⟩

theorem rectIn_le (b : Bounds) (offset : Offset) (left top width height : Nat) :
    (b.rectIn offset left top width height).left + (b.rectIn offset left top width height).width ≤
        width ∧
      (b.rectIn offset left top width height).top + (b.rectIn offset left top width height).height ≤
        height :=
  ⟨Span.place_le .., Span.place_le ..⟩

theorem shows_union {all : List Bounds} {b : Bounds} (mem : b ∈ all) (bounded : b.IsBounded)
    {offset : Offset} {x y : Int} (h : b.Shows offset x y) : (union all).Shows offset x y :=
  ⟨Span.shows_union (List.mem_map_of_mem mem) bounded.1 h.1,
    Span.shows_union (List.mem_map_of_mem mem) bounded.2 h.2⟩

end Bounds

namespace Rect

theorem contains_move_iff (r : Rect) (dx dy x y : Nat) :
    (r.move dx dy).Contains x y ↔ dx ≤ x ∧ dy ≤ y ∧ r.Contains (x - dx) (y - dy) := by
  simp only [move, Contains]
  omega

theorem isEmpty_iff_forall_not_contains (r : Rect) : r.IsEmpty ↔ ∀ x y, ¬ r.Contains x y := by
  constructor
  · intro h x y
    simp only [IsEmpty, Contains] at *
    omega
  · intro h
    have corner := h r.left r.top
    simp only [IsEmpty, Contains] at *
    omega

end Rect

namespace Bounds

/-- Within a part of the image, a placed box covers just those of its pixels in the whole image
that lie in the part. -/
theorem contains_move_rectIn_iff (b : Bounds) (offset : Offset) {part : Rect} {width height : Nat}
    (inside : part.left + part.width ≤ width ∧ part.top + part.height ≤ height) (x y : Nat) :
    ((b.rectIn offset part.left part.top part.width part.height).move part.left
        part.top).Contains x y ↔
      (b.rect offset width height).Contains x y ∧ part.Contains x y := by
  rw [Rect.contains_move_iff, rect, contains_rectIn_iff, contains_rectIn_iff]
  simp only [Rect.Contains, Nat.zero_add]
  constructor
  · rintro ⟨left, top, ⟨hx, hy⟩, shows⟩
    rw [Nat.add_sub_cancel' left, Nat.add_sub_cancel' top] at shows
    exact ⟨⟨by omega, shows⟩, by omega⟩
  · rintro ⟨⟨-, shows⟩, left, hx, top, hy⟩
    rw [Nat.add_sub_cancel' left, Nat.add_sub_cancel' top]
    exact ⟨left, top, by omega, shows⟩

/-- The box around several keeps every pixel of those that are bounded on all sides. -/
theorem contains_rect_union {all : List Bounds} {b : Bounds} (mem : b ∈ all)
    (bounded : b.IsBounded) {offset : Offset} {width height x y : Nat}
    (h : (b.rect offset width height).Contains x y) :
    ((union all).rect offset width height).Contains x y := by
  obtain ⟨inside, shows⟩ := (contains_rectIn_iff ..).mp h
  exact (contains_rectIn_iff ..).mpr ⟨inside, shows_union mem bounded shows⟩

end Bounds

/-- The crop around regions lies inside the image, and a region lies inside the crop, where it
covers just those of its pixels in the image that the crop keeps. No pixel of a region that is
bounded on all sides is lost, so that it has none in the image if the crop is empty. -/
theorem crop_placement (regions : List Region) (offset : Offset) (width height : Nat) :
    let crop := (boundsOf regions).rect offset width height
    let inCrop (region : Region) : Rect :=
      region.bounds.rectIn offset crop.left crop.top crop.width crop.height
    let inImage (region : Region) : Rect := region.bounds.rect offset width height
    (crop.left + crop.width ≤ width ∧ crop.top + crop.height ≤ height) ∧
      (∀ region : Region,
        ((inCrop region).left + (inCrop region).width ≤ crop.width ∧
          (inCrop region).top + (inCrop region).height ≤ crop.height) ∧
        ∀ x y, ((inCrop region).move crop.left crop.top).Contains x y ↔
          (inImage region).Contains x y ∧ crop.Contains x y) ∧
      ∀ region ∈ regions, region.bounds.IsBounded →
        (∀ x y, ((inCrop region).move crop.left crop.top).Contains x y ↔
          (inImage region).Contains x y) ∧
        (crop.IsEmpty → (inImage region).IsEmpty) := by
  intro crop inCrop inImage
  have inside : crop.left + crop.width ≤ width ∧ crop.top + crop.height ≤ height :=
    Bounds.rectIn_le ..
  refine ⟨inside, fun region => ⟨Bounds.rectIn_le .., fun x y => ?_⟩, ?_⟩
  · exact Bounds.contains_move_rectIn_iff _ _ inside x y
  intro region mem bounded
  have covered {x y : Nat} (h : (inImage region).Contains x y) : crop.Contains x y :=
    Bounds.contains_rect_union (List.mem_map_of_mem mem) bounded h
  constructor
  · intro x y
    rw [Bounds.contains_move_rectIn_iff _ _ inside]
    exact and_iff_left_of_imp covered
  · intro empty
    rw [Rect.isEmpty_iff_forall_not_contains] at empty ⊢
    exact fun x y h => empty x y (covered h)

namespace Sample

/-- A region bounded on all sides. -/
def boxed (x₁ y₁ x₂ y₂ : Nat) (horizontal : x₁ ≤ x₂) (vertical : y₁ ≤ y₂) : Region where
  identifier := "box1"
  confidenceId := none
  scaler := 0
  digit := false
  bounds := ⟨⟨some x₁, some x₂⟩, ⟨some y₁, some y₂⟩⟩
  identifier_ne_empty := by decide
  confidenceId_ne_empty := by decide
  ordered_horizontal := by simpa [Span.Ordered] using horizontal
  ordered_vertical := by simpa [Span.Ordered] using vertical

/-- Two boxes side by side on a photo that has drifted. -/
theorem crop_placement_boxed :
    let near := boxed 42 10 100 65 (by decide) (by decide)
    let far := boxed 120 12 395 60 (by decide) (by decide)
    let crop := (boundsOf [near, far]).rect ⟨3, -2⟩ 640 480
    let inCrop := far.bounds.rectIn ⟨3, -2⟩ crop.left crop.top crop.width crop.height
    crop = ⟨45, 8, 353, 55⟩ ∧ far.bounds.IsBounded ∧
      (far.bounds.rect ⟨3, -2⟩ 640 480).Contains 397 57 ∧
      (inCrop.move crop.left crop.top).Contains 397 57 := by
  intro near far crop inCrop
  have bounded : far.bounds.IsBounded := by decide
  have shown : (far.bounds.rect ⟨3, -2⟩ 640 480).Contains 397 57 := by
    unfold Rect.Contains
    decide
  obtain ⟨-, -, covered⟩ := crop_placement [near, far] ⟨3, -2⟩ 640 480
  exact ⟨by decide, bounded, shown, ((covered far (by simp) bounded).1 397 57).2 shown⟩

end Sample
end MeterSight
