import MeterSight.Proofs.Placement
import MeterSight.Proofs.Session

/-!
# Drift compensation

Of a photo, a recognizer sees only the moved box of its regions, and that without its place. Two
photos that show the same in the box, each moved by the offset of its own photo, are therefore read
in the same way, whatever else they show and however far each of them has drifted.
-/
namespace MeterSight

/-- Cleaning looks at nothing but the part, and shows nothing else. -/
theorem clean_eq_clean (c : GammaCurve) {photo photo' : RgbaImage} {part part' : Rect}
    (pixels : ¬ part.IsEmpty) (pixels' : ¬ part'.IsEmpty)
    (same : photo.crop part = photo'.crop part') (held : Option (List Frame)) :
    clean c (some part) ⟨photo, held⟩ = clean c (some part') ⟨photo', held⟩ := by
  simp only [clean, Passage.convert, Option.filter, pixels, pixels', not_false_eq_true,
    decide_true, if_true, same]

namespace TextRecognizer
variable {σ α : Type}

/-- The box of all regions where it comes to lie on a photo. -/
def movedBox (x₁ x₂ y₁ y₂ : Nat) (offset : Offset) : Rect :=
  ⟨(x₁ + offset.dx).toNat, (y₁ + offset.dy).toNat, x₂ - x₁, y₂ - y₁⟩

theorem not_isEmpty_movedBox {x₁ x₂ y₁ y₂ : Nat} (hx : x₁ < x₂) (hy : y₁ < y₂)
    (offset : Offset) : ¬ (movedBox x₁ x₂ y₁ y₂ offset).IsEmpty := by
  simp only [movedBox, Rect.IsEmpty]
  omega

/-- Photos that show the same in the box, each moved by its own offset, have the same cut. -/
theorem crop_movedBox {x₁ x₂ y₁ y₂ : Nat} {photo photo' : RgbaImage} {o p : Offset}
    (inside : (0 ≤ x₁ + o.dx ∧ x₂ + o.dx ≤ photo.width) ∧
      0 ≤ y₁ + o.dy ∧ y₂ + o.dy ≤ photo.height)
    (inside' : (0 ≤ x₁ + p.dx ∧ x₂ + p.dx ≤ photo'.width) ∧
      0 ≤ y₁ + p.dy ∧ y₂ + p.dy ≤ photo'.height)
    (hx : x₁ < x₂) (hy : y₁ < y₂)
    (same : ∀ x y : Nat, x₁ ≤ x → x < x₂ → y₁ ≤ y → y < y₂ →
      photo.pixel (x + o.dx).toNat (y + o.dy).toNat =
        photo'.pixel (x + p.dx).toNat (y + p.dy).toNat) :
    photo.crop (movedBox x₁ x₂ y₁ y₂ o) = photo'.crop (movedBox x₁ x₂ y₁ y₂ p) := by
  have place (offset : Offset) (x y : Nat) (hx : 0 ≤ x₁ + offset.dx) (hy : 0 ≤ y₁ + offset.dy) :
      (movedBox x₁ x₂ y₁ y₂ offset).left + x = ((x₁ + x : Nat) + offset.dx).toNat ∧
        (movedBox x₁ x₂ y₁ y₂ offset).top + y = ((y₁ + y : Nat) + offset.dy).toNat := by
    simp only [movedBox]
    omega
  refine Image.crop_eq_crop rfl rfl ?_ ?_ fun x y hx hy => ?_
  · simp only [movedBox]
    omega
  · simp only [movedBox]
    omega
  · obtain ⟨left, top⟩ := place o x y inside.1.1 inside.2.1
    obtain ⟨left', top'⟩ := place p x y inside'.1.1 inside'.2.1
    rw [left, top, left', top']
    simp only [movedBox] at hx hy
    exact same _ _ (by omega) (by omega) (by omega) (by omega)

theorem part?_eq_movedBox (r : TextRecognizer) {x₁ x₂ y₁ y₂ : Nat}
    (bounds : boundsOf r.regions = ⟨⟨some x₁, some x₂⟩, ⟨some y₁, some y₂⟩⟩)
    (hx : x₁ < x₂) (hy : y₁ < y₂) {photo : RgbaImage} {offset : Offset}
    (horizontal : 0 ≤ x₁ + offset.dx ∧ x₂ + offset.dx ≤ photo.width)
    (vertical : 0 ≤ y₁ + offset.dy ∧ y₂ + offset.dy ≤ photo.height) :
    r.part? offset photo = some (movedBox x₁ x₂ y₁ y₂ offset) := by
  have rect : (⟨⟨some x₁, some x₂⟩, ⟨some y₁, some y₂⟩⟩ : Bounds).rect offset photo.width
      photo.height = movedBox x₁ x₂ y₁ y₂ offset := by
    simp only [Bounds.rect, Bounds.rectIn, Span.place, Span.locate, Option.elim_some, movedBox,
      Rect.mk.injEq]
    omega
  have pixels := not_isEmpty_movedBox hx hy offset
  simp [part?, bounds, rect, pixels, Bounds.IsOpen, Span.IsOpen]

/-- A region lies at the same place of the moved box, wherever that has moved. -/
theorem searchRect_movedBox {x₁ x₂ y₁ y₂ : Nat} {o p : Offset} (hx : 0 ≤ x₁ + o.dx)
    (hx' : 0 ≤ x₁ + p.dx) (hy : 0 ≤ y₁ + o.dy) (hy' : 0 ≤ y₁ + p.dy) (paper : GrayImage)
    (region : Region) :
    searchRect (some (movedBox x₁ x₂ y₁ y₂ o)) o paper region =
      searchRect (some (movedBox x₁ x₂ y₁ y₂ p)) p paper region := by
  have horizontal := region.bounds.horizontal.place_eq_of_sub_eq paper.width
    (show o.dx - ((x₁ + o.dx).toNat : Int) = p.dx - ((x₁ + p.dx).toNat : Int) by omega)
  have vertical := region.bounds.vertical.place_eq_of_sub_eq paper.height
    (show o.dy - ((y₁ + o.dy).toNat : Int) = p.dy - ((y₁ + p.dy).toNat : Int) by omega)
  simp only [searchRect, movedBox, Option.elim_some, Bounds.rectIn, horizontal, vertical]

/-- Two photos that show the same in the box of all regions, moved on each by its own offset, are
read alike: with every engine the same is asked in the same order, with the same image and
rectangles, and whatever readings were there before, the same is made of them. -/
theorem readInto_eq_of_drift [Amount α] (b : Backend σ) (r : TextRecognizer)
    {x₁ x₂ y₁ y₂ : Nat}
    (bounds : boundsOf r.regions = ⟨⟨some x₁, some x₂⟩, ⟨some y₁, some y₂⟩⟩)
    (hx : x₁ < x₂) (hy : y₁ < y₂) {photo photo' : RgbaImage} {o p : Offset}
    (inside : (0 ≤ x₁ + o.dx ∧ x₂ + o.dx ≤ photo.width) ∧
      0 ≤ y₁ + o.dy ∧ y₂ + o.dy ≤ photo.height)
    (inside' : (0 ≤ x₁ + p.dx ∧ x₂ + p.dx ≤ photo'.width) ∧
      0 ≤ y₁ + p.dy ∧ y₂ + p.dy ≤ photo'.height)
    (same : ∀ x y : Nat, x₁ ≤ x → x < x₂ → y₁ ≤ y → y < y₂ →
      photo.pixel (x + o.dx).toNat (y + o.dy).toNat =
        photo'.pixel (x + p.dx).toNat (y + p.dy).toNat)
    (held : Option (List Frame)) (reads : Readings α) (s : σ) (events : List EngineEvent) :
    r.readInto b.traced photo o held reads (s, events) =
        r.readInto b.traced photo' p held reads (s, events) ∧
      r.sight b photo o = r.sight b photo' p := by
  obtain ⟨insideX, insideY⟩ := inside
  obtain ⟨insideX', insideY'⟩ := inside'
  have cleaned : ∀ held, clean r.curve (some (movedBox x₁ x₂ y₁ y₂ o)) ⟨photo, held⟩ =
      clean r.curve (some (movedBox x₁ x₂ y₁ y₂ p)) ⟨photo', held⟩ :=
    clean_eq_clean r.curve (not_isEmpty_movedBox hx hy o) (not_isEmpty_movedBox hx hy p)
      (crop_movedBox ⟨insideX, insideY⟩ ⟨insideX', insideY'⟩ hx hy same)
  have sight {τ : Type} (b : Backend τ) : r.sight b photo o = r.sight b photo' p := by
    have place : searchRect (some (movedBox x₁ x₂ y₁ y₂ o)) o =
        searchRect (some (movedBox x₁ x₂ y₁ y₂ p)) p := by
      funext paper region
      exact searchRect_movedBox insideX.1 insideX'.1 insideY.1 insideY'.1 paper region
    funext held
    simp only [TextRecognizer.sight, search, r.part?_eq_movedBox bounds hx hy insideX insideY,
      r.part?_eq_movedBox bounds hx hy insideX' insideY', cleaned, place]
  constructor
  · simp only [readInto, sight]
  · exact sight b

end TextRecognizer

namespace Sample

/-- A photo with a black pixel in its second row. -/
def spot (size column : Nat) (around : Rgba) : RgbaImage :=
  Image.ofFn size size fun x y => if x = column ∧ y = 1 then ⟨0, 0, 0, 255⟩ else around

/-- Of two photos of different sizes and colors one has drifted by a pixel. -/
theorem readInto_eq_after_drift :
    let r := recognizer (boxed 1 1 2 2 (by decide) (by decide)) "eng"
    let b := (backend "eng" [seven]).traced
    r.readInto (α := Float) b (spot 3 1 ⟨255, 255, 255, 255⟩) .zero none .empty ((), []) =
      r.readInto b (spot 4 2 ⟨99, 99, 99, 255⟩) ⟨1, 0⟩ none .empty ((), []) := by
  intro r b
  have bounds : boundsOf r.regions = ⟨⟨some 1, some 2⟩, ⟨some 1, some 2⟩⟩ := by decide
  refine (r.readInto_eq_of_drift (backend "eng" [seven]) bounds (by decide) (by decide)
    (by decide) (by decide) (fun x y hx hx' hy hy' => ?_) none .empty () []).1
  obtain rfl : x = 1 := by omega
  obtain rfl : y = 1 := by omega
  decide +kernel

end Sample
end MeterSight
