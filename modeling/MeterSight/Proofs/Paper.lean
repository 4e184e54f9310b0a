import MeterSight.Proofs.OpenSides

/-!
# What an engine is given

An engine is shown ink on paper: whatever the gamma curve does, the last stage of cleaning leaves
only the darkest and the brightest level. The paper is as large as the part of the photo it shows,
and every rectangle that is set on it has pixels and lies inside.
-/
namespace MeterSight

/-- Every pixel is ink or paper. -/
def Image.IsInked (img : GrayImage) : Prop :=
  ∀ x y, x < img.width → y < img.height → img.pixel x y = 0 ∨ img.pixel x y = 255

theorem Image.isInked_of_binarize {threshold : UInt8} {img next : GrayImage}
    (made : binarize threshold img = some next) : next.IsInked := by
  unfold binarize unlessEmpty at made
  split at made
  · contradiction
  · obtain rfl := Option.some.inj made
    intro x y hx hy
    rw [pixel_map _ img hx hy]
    split
    · exact .inl rfl
    · exact .inr rfl

theorem Image.exists_binarize {img : GrayImage} (threshold : UInt8) (pixels : ¬ img.IsEmpty) :
    ∃ next, binarize threshold img = some next :=
  ⟨_, if_neg pixels⟩

/-- Whatever the gamma curve does, the last stage of cleaning tells ink from paper. -/
theorem isInked_result_cleaningStages (c : GammaCurve) {gray : GrayImage}
    (pixels : ¬ gray.IsEmpty) : (Stage.result (cleaningStages c) gray).IsInked := by
  have last : cleaningStages c =
      (cleaningStages c).dropLast ++ [⟨"binarize", Image.binarize inkThreshold⟩] := rfl
  have keep : ∀ s ∈ (cleaningStages c).dropLast, s.KeepsSize := fun s mem =>
    keepsSize_of_mem_cleaningStages (List.dropLast_subset _ mem)
  have size := Stage.size_result keep gray
  rw [Stage.result] at size ⊢
  rw [last, List.foldl_append]
  -- The stages before keep the size, so that the last one has pixels and is not skipped.
  generalize (cleaningStages c).dropLast.foldl _ gray = smooth at size ⊢
  have some : ¬ smooth.IsEmpty := by rwa [Image.IsEmpty, size.1, size.2]
  obtain ⟨paper, made⟩ := Image.exists_binarize inkThreshold some
  simpa [made] using Image.isInked_of_binarize made

namespace TextRecognizer
variable {σ : Type} {r : TextRecognizer} {offset : Offset} {photo : RgbaImage}

/-- The photo is cut down to the box of all regions. -/
def Cuts (r : TextRecognizer) (offset : Offset) (photo : RgbaImage) : Prop :=
  ¬ (boundsOf r.regions).IsOpen ∧
    ¬ ((boundsOf r.regions).rect offset photo.width photo.height).IsEmpty

instance : Decidable (r.Cuts offset photo) := inferInstanceAs (Decidable (_ ∧ _))

theorem part?_of_cuts (h : r.Cuts offset photo) : r.part? offset photo =
    some ((boundsOf r.regions).rect offset photo.width photo.height) :=
  part?_eq_some_iff.2 ⟨h.1, rfl, h.2⟩

theorem part?_of_not_cuts (h : ¬ r.Cuts offset photo) : r.part? offset photo = none := by
  cases found : r.part? offset photo with
  | none => rfl
  | some part =>
    obtain ⟨closed, rfl, pixels⟩ := part?_eq_some_iff.1 found
    exact absurd ⟨closed, pixels⟩ h

theorem isInked_paper (pixels : ¬ photo.IsEmpty) : (r.paper photo offset).IsInked := by
  rw [paper, cleanImage]
  refine isInked_result_cleaningStages r.curve ?_
  cases found : r.part? offset photo with
  | none => exact pixels
  | some part =>
    obtain ⟨-, rect, some⟩ := part?_eq_some_iff.1 found
    have inside : part.left + part.width ≤ photo.width ∧ part.top + part.height ≤ photo.height :=
      rect ▸ Bounds.rectIn_le (boundsOf r.regions) offset 0 0 photo.width photo.height
    obtain ⟨width, height⟩ := size_cutOut_some some inside
    rw [Image.IsEmpty, Image.toGray, Image.width_map, Image.height_map, width, height]
    exact some

/-- The paper is as large as the part of the photo that it shows. -/
theorem size_paper (r : TextRecognizer) (photo : RgbaImage) (offset : Offset) :
    let crop := (boundsOf r.regions).rect offset photo.width photo.height
    (r.paper photo offset).width = (if r.Cuts offset photo then crop.width else photo.width) ∧
      (r.paper photo offset).height =
        (if r.Cuts offset photo then crop.height else photo.height) := by
  intro crop
  obtain ⟨width, height⟩ := size_cleanImage r.curve (r.part? offset photo) photo
  rw [paper, width, height]
  by_cases cuts : r.Cuts offset photo
  · rw [part?_of_cuts cuts, if_pos cuts, if_pos cuts]
    exact size_cutOut_some cuts.2 (Bounds.rectIn_le ..)
  · rw [part?_of_not_cuts cuts, if_neg cuts, if_neg cuts]
    exact ⟨rfl, rfl⟩

end TextRecognizer

namespace Session
variable {photo : RgbaImage} {offset : Offset} {s : Session}

theorem eq_paper_of_image_mem_events {img : GrayImage} {answer : Except MeterError Unit}
    (mem : .image img answer ∈ s.events photo offset) : img = s.recognizer.paper photo offset := by
  rcases s with ⟨r, cause | cause | searches⟩
  · simp [events] at mem
  · have same : img = r.paper photo offset ∧ answer = .error cause := by simpa [events] using mem
    exact same.1
  · have searched (found : .image img answer ∈ searches.flatMap Search.events) : False := by
      obtain ⟨search, -, inside⟩ := List.mem_flatMap.1 found
      cases answered : search.answer <;> simp [Search.events, answered] at inside
    simp [events] at mem
    grind

theorem image_mem_events_of_create_mem {settings : EngineSettings}
    (mem : .create settings (.ok ()) ∈ s.events photo offset) :
    ∃ answer, .image (s.recognizer.paper photo offset) answer ∈ s.events photo offset := by
  rcases s with ⟨r, cause | cause | searches⟩
  · simp [events] at mem
  · exact ⟨.error cause, by simp [events]⟩
  · exact ⟨.ok (), by simp [events]⟩

theorem exists_of_rectangle_mem_events (orderly : s.Orderly photo offset) {rect : Rect}
    (mem : .rectangle rect ∈ s.events photo offset) :
    ∃ region ∈ s.recognizer.regions, rect = s.recognizer.place photo offset region ∧
      ¬ rect.IsEmpty := by
  rcases s with ⟨r, cause | cause | searches⟩
  · simp [events] at mem
  · simp [events] at mem
  · have found : .rectangle rect ∈ searches.flatMap Search.events := by simpa [events] using mem
    obtain ⟨search, listed, inside⟩ := List.mem_flatMap.1 found
    obtain ⟨region, own, isAt⟩ := Search.exists_isAt_of_forall₂ orderly search listed
    cases answered : search.answer with
    | none => simp [Search.events, answered] at inside
    | some answer =>
      obtain rfl : rect = search.rect := by simpa [Search.events, answered] using inside
      have pixels := isAt.asked_iff.1 (by simp [answered])
      exact ⟨region, own, isAt.rect_eq, isAt.rect_eq ▸ pixels⟩

end Session

namespace TextRecognizer
variable {σ : Type}

/-- An engine that is had for a photo with pixels is shown ink on paper, of the size of the cut that
is made of the photo or, where none is made, of the photo itself. Nothing else is shown to it, and
every rectangle that is set has pixels and lies on the paper. -/
theorem sight_gives_paper (b : Backend σ) (r : TextRecognizer) {photo : RgbaImage}
    (pixels : ¬ photo.IsEmpty) (offset : Offset)
    (held : Option (List Frame)) (s : σ) :
    let events := (r.sight b.traced photo offset held (s, [])).2.2
    let crop := (boundsOf r.regions).rect offset photo.width photo.height
    let cuts := ¬ (boundsOf r.regions).IsOpen ∧ ¬ crop.IsEmpty
    ∃ paper : GrayImage,
      (∀ x y, x < paper.width → y < paper.height →
        paper.pixel x y = 0 ∨ paper.pixel x y = 255) ∧
      paper.width = (if cuts then crop.width else photo.width) ∧
      paper.height = (if cuts then crop.height else photo.height) ∧
      (.create r.settings (.ok ()) ∈ events → ∃ answer, .image paper answer ∈ events) ∧
      (∀ img answer, .image img answer ∈ events → img = paper) ∧
      ∀ rect, .rectangle rect ∈ events →
        (1 ≤ rect.width ∧ 1 ≤ rect.height) ∧
          rect.left + rect.width ≤ paper.width ∧ rect.top + rect.height ≤ paper.height := by
  intro events crop cuts
  obtain ⟨session, t, rfl, orderly, run⟩ := r.sight_traced b photo offset s []
  have asked : events = session.events photo offset := by simp [events, (run held).2]
  obtain ⟨width, height⟩ := session.recognizer.size_paper photo offset
  rw [asked]
  refine ⟨session.recognizer.paper photo offset, isInked_paper pixels, width, height,
    Session.image_mem_events_of_create_mem, ?_, ?_⟩
  · intro img answer mem
    exact Session.eq_paper_of_image_mem_events mem
  · intro rect mem
    obtain ⟨region, -, rfl, some⟩ := Session.exists_of_rectangle_mem_events orderly mem
    refine ⟨by unfold Rect.IsEmpty at some; omega, ?_⟩
    exact region.bounds.rectIn_le _ _ _ _ _

end TextRecognizer

namespace Sample

/-- Of a photo of nine pixels, only the black one is in the box. -/
theorem sight_gives_paper_spot :
    let box := boxed 1 1 2 2 (by decide) (by decide)
    let r := recognizer box "eng"
    let photo := spot 3 1 ⟨255, 255, 255, 255⟩
    let place := r.place photo .zero box
    let events := (r.sight (backend "eng" [seven]).traced photo .zero none ((), [])).2.2
    ¬ photo.IsEmpty ∧ .create r.settings (.ok ()) ∈ events ∧ .rectangle place ∈ events ∧
      ∃ paper : GrayImage, (∃ answer, .image paper answer ∈ events) ∧
        (paper.width = 1 ∧ paper.height = 1) ∧ (paper.pixel 0 0 = 0 ∨ paper.pixel 0 0 = 255) ∧
        place.left + place.width ≤ paper.width := by
  intro box r photo place events
  have pixels : ¬ photo.IsEmpty := by decide
  have inside : ¬ (r.place photo .zero box).IsEmpty := by decide +kernel
  have listed : r.regions = [box] := rfl
  have known : r.settings.language = "eng" := rfl
  have all : events = [.create r.settings (.ok ()), .image (r.paper photo .zero) (.ok ()),
      .rectangle place, .recognize (.ok [seven]), .release] := by
    simp [events, place, TextRecognizer.sight, TextRecognizer.search_eq, TextRecognizer.lookAll,
      TextRecognizer.look, stateM_bind_apply, stateM_map_apply, stateM_pure_apply, Backend.traced,
      backend, listed, known, inside]
  have created : .create r.settings (.ok ()) ∈ events := by simp [all]
  have searched : .rectangle place ∈ events := by simp [all]
  obtain ⟨paper, inked, width, height, shown, -, rectangles⟩ :=
    r.sight_gives_paper (backend "eng" [seven]) pixels .zero none ()
  have size : paper.width = 1 ∧ paper.height = 1 :=
    ⟨width.trans (by decide), height.trans (by decide)⟩
  exact ⟨pixels, created, searched, paper, shown created, size, inked 0 0 (by omega) (by omega),
    (rectangles place searched).2.1⟩

end Sample
end MeterSight
