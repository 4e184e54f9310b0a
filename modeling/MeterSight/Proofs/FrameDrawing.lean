import MeterSight.Proofs.OpenSides
import MeterSight.Proofs.Tour

/-!
# Drawing the frames of a cycle

The pictures of a cycle are parts of its photo, so that no canvas for them takes too many bytes. The
search window and the search rectangles lie on their pictures, and are drawn by every library. The
boxes of words may lie anywhere, and a montage comes to an end only if all of them can be drawn.
-/
namespace MeterSight

/-! ### Outlines within reach -/

/-- The outline of a rectangle that lies on a picture is near. -/
theorem Rect.isWithinReach_of_outline? {r : Rect} {o : Outline} (found : r.outline? = some o)
    (right : r.left + r.width ≤ Codec.roomLimit) (bottom : r.top + r.height ≤ Codec.roomLimit) :
    o.IsWithinReach := by
  unfold outline? at found
  unfold Codec.roomLimit at right bottom
  split at found
  · cases found
  · next pixels =>
    obtain rfl := Option.some.inj found
    obtain ⟨wide, high⟩ := not_or.1 pixels
    have first {start size : Nat} (le : start + size ≤ 0x20000000) :
        signed32 start = start ∧ signed32 size = size :=
      ⟨signed32_of_lt (by omega), signed32_of_lt (by omega)⟩
    have last {start size : Nat} (some : size ≠ 0) (le : start + size ≤ 0x20000000) :
        signed32 ((start : Int) + size - 1) = (start + size - 1 : Nat) := by
      have whole : (start : Int) + size - 1 = (start + size - 1 : Nat) := by omega
      rw [whole, signed32_of_lt (by omega)]
    simp only [Outline.IsWithinReach, farEnd, first right, first bottom, last wide right,
      last high bottom]
    omega

theorem Mark.isWithinReach_of_mem_borders {rects : List Rect} {color : Rgba} {m : Mark}
    (mem : m ∈ borders rects color)
    (near : ∀ r ∈ rects, ∀ o ∈ r.outline?, o.IsWithinReach) : m.IsWithinReach := by
  obtain ⟨o, found, rfl⟩ := List.mem_map.1 mem
  obtain ⟨r, listed, outline⟩ := List.mem_filterMap.1 found
  exact near r listed o outline

/-! ### Frames that can be drawn -/

namespace Frame
variable [ImageLibrary]

/-- Drawing the marks of a frame comes to an end. -/
theorem exists_render? (f : Frame)
    (near : ImageLibrary.AlwaysDraws ∨ ∀ m ∈ f.marks, m.IsWithinReach) :
    ∃ drawn, f.render? = some drawn ∧ drawn.width = f.image.width := by
  obtain ⟨title, img, marks⟩ := f
  unfold render?
  simp only at near ⊢
  induction marks generalizing img with
  | nil => exact ⟨img, rfl, rfl⟩
  | cons m more ih =>
    have first : (ImageLibrary.draw? m img).isSome := by
      rcases near with always | near
      · exact always m img
      · exact ImageLibrary.isSome_draw? img (near m List.mem_cons_self)
    obtain ⟨next, drawn⟩ := Option.isSome_iff_exists.1 first
    have later : ImageLibrary.AlwaysDraws ∨ ∀ m ∈ more, m.IsWithinReach :=
      near.imp_right fun near m mem => near m (List.mem_cons_of_mem _ mem)
    obtain ⟨last, rest, width⟩ := ih next later
    refine ⟨last, ?_, width.trans (ImageLibrary.size_of_draw? drawn).1⟩
    rw [List.foldlM_cons, drawn]
    exact rest

theorem exists_mapM_render? {frames : List Frame} {limit : Nat}
    (near : ImageLibrary.AlwaysDraws ∨ ∀ f ∈ frames, ∀ m ∈ f.marks, m.IsWithinReach)
    (narrow : ∀ f ∈ frames, f.image.width ≤ limit) :
    ∃ images, frames.mapM render? = some images ∧ ∀ img ∈ images, img.width ≤ limit := by
  induction frames with
  | nil => exact ⟨[], rfl, by simp⟩
  | cons f more ih =>
    obtain ⟨own, others⟩ := List.forall_mem_cons.1 narrow
    obtain ⟨drawn, first, width⟩ :=
      f.exists_render? (near.imp_right fun near => near f List.mem_cons_self)
    obtain ⟨images, rest, narrow'⟩ :=
      ih (near.imp_right fun near f mem => near f (List.mem_cons_of_mem _ mem)) others
    refine ⟨drawn :: images, ?_, List.forall_mem_cons.2 ⟨width ▸ own, narrow'⟩⟩
    simp [List.mapM_cons, first, rest]

end Frame

namespace Montage

/-- No stack of pictures as wide as a photo is too large, however many there are. -/
theorem exists_compose {images : List RgbaImage}
    (narrow : ∀ img ∈ images, img.width ≤ Codec.roomLimit) :
    ∃ composed, compose images = .ok composed := by
  by_cases none : images = []
  · exact ⟨_, if_pos none⟩
  have wide : max (stackWidth images) 1 ≤ 0x20000000 := by
    have widest : ∀ w ∈ (images.map Image.width).max?, w ≤ 0x20000000 := by
      intro w most
      obtain ⟨img, mem, rfl⟩ := List.mem_map.1 (List.max?_mem most)
      exact narrow img mem
    unfold stackWidth
    cases most : (images.map Image.width).max? with
    | none => decide
    | some w => exact Nat.max_le.2 ⟨widest w most, by decide⟩
  have high : max (stackHeight images) 1 ≤ 0xFFFFFFFF := by
    unfold stackHeight
    omega
  have room : 4 * max (stackWidth images) 1 * max (stackHeight images) 1 ≤
      4 * 0x20000000 * 0xFFFFFFFF := Nat.mul_le_mul (Nat.mul_le_mul_left 4 wide) high
  have small : ¬ canvasLimit < 4 * max (stackWidth images) 1 * max (stackHeight images) 1 := by
    unfold canvasLimit
    omega
  exact ⟨_, by rw [compose, if_neg none, canvas, if_neg small]; rfl⟩

variable {files : Files} {path : String} {images : List RgbaImage} {img : RgbaImage}

theorem write_of_none (made : compose images = .ok none) :
    write files path images = .ok files := by
  rw [write, made]
  rfl

theorem write_of_some (made : compose images = .ok (some img)) :
    write files path images = match files.writePicture? path img with
      | some written => .ok written
      | none => .error (.unwritable (.image (files.writingFault path))) := by
  rw [write, made]
  rfl

end Montage

namespace Meter
variable [ImageLibrary]

theorem exists_keepFrames (m : Meter) (files : Files) {frames : List Frame}
    (near : ImageLibrary.AlwaysDraws ∨ ∀ f ∈ frames, ∀ m ∈ f.marks, m.IsWithinReach)
    (narrow : ∀ f ∈ frames, f.image.width ≤ Codec.roomLimit) :
    ∃ written, m.keepFrames files frames = some written := by
  obtain ⟨images, rendered, narrow'⟩ := Frame.exists_mapM_render? near narrow
  obtain ⟨composed, made⟩ := Montage.exists_compose narrow'
  rw [keepFrames, rendered]
  cases composed with
  | none => exact ⟨files, by simp [Montage.write_of_none made]⟩
  | some img =>
    cases put : files.writePicture? (Montage.path m.file) img with
    | none => exact ⟨files, by simp [Montage.write_of_some made, put]⟩
    | some written => exact ⟨written, by simp [Montage.write_of_some made, put]⟩

end Meter

/-! ### The size of pictures -/

theorem Image.size_crop_le {α : Type} [Inhabited α] (img : Image α) (r : Rect) :
    (img.crop r).width ≤ img.width ∧ (img.crop r).height ≤ img.height := by
  simp only [crop, Rect.clip, width_ofFn, height_ofFn]
  omega

theorem Image.size_rotate (img : RgbaImage) (degrees : Float) :
    (img.rotate degrees).width = img.width ∧ (img.rotate degrees).height = img.height := by
  unfold rotate
  split <;> exact ⟨rfl, rfl⟩

theorem size_cutOut_le (part : Option Rect) (photo : RgbaImage) :
    (cutOut part photo).width ≤ photo.width ∧ (cutOut part photo).height ≤ photo.height := by
  unfold cutOut
  cases part.filter (¬ ·.IsEmpty) with
  | none => exact ⟨Nat.le_refl _, Nat.le_refl _⟩
  | some r => exact photo.size_crop_le r

theorem Stage.width_of_mem_made {stages : List Stage} (keep : ∀ s ∈ stages, s.KeepsSize)
    (img : GrayImage) :
    ∀ p ∈ made stages (outputs stages img), p.2.width = img.width := by
  induction stages generalizing img with
  | nil => simp [made]
  | cons s more ih =>
    obtain ⟨first, rest⟩ := List.forall_mem_cons.1 keep
    intro p mem
    cases output : s.apply img with
    | none => exact ih rest img p (by simpa [made, outputs, output] using mem)
    | some next =>
      have width : next.width = img.width := (first img next output).1
      have either : p = (s.title, next) ∨ p ∈ made more (outputs more next) := by
        simpa [made, outputs, output] using mem
      rcases either with rfl | later
      · exact width
      · exact (ih rest next p later).trans width

/-- A frame of a picture no wider than a photo, with nothing to draw on it. -/
structure Frame.IsPart (f : Frame) (photo : RgbaImage) : Prop where
  width_le : f.image.width ≤ photo.width
  marks_eq : f.marks = []

theorem isPart_of_mem_cleanFrames {c : GammaCurve} {part : Option Rect} {photo : RgbaImage}
    {f : Frame} (mem : f ∈ cleanFrames c part photo) : f.IsPart photo := by
  have cut := (size_cutOut_le part photo).1
  rcases List.mem_append.1 mem with mem | mem
  · obtain ⟨_, _, rfl⟩ := by simpa [cutFrames] using mem
    exact ⟨cut, rfl⟩
  · obtain ⟨p, shown, rfl⟩ := List.mem_map.1 mem
    refine ⟨?_, rfl⟩
    rcases List.mem_cons.1 shown with rfl | made
    · exact cut
    · have keep : ∀ s ∈ cleaningStages c, s.KeepsSize := fun _ => keepsSize_of_mem_cleaningStages
      exact Nat.le_trans (Nat.le_of_eq (Stage.width_of_mem_made keep _ p made)) cut

theorem DriftWindow.isPart_of_mem_edgeFrames {w : DriftWindow} {photo : RgbaImage} {f : Frame}
    (mem : f ∈ w.edgeFrames photo) : f.IsPart photo := by
  have cut := (photo.size_crop_le w.rect).1
  unfold edgeFrames at mem
  split at mem
  · rcases List.mem_pair.1 mem with rfl | rfl <;> exact ⟨cut, rfl⟩
  · cases mem

/-! ### The frames of a cycle -/

/-- The search window lies on the photo. -/
theorem Meter.isWithinReach_of_mem_windowMarks {window : Option DriftWindow} {photo : RgbaImage}
    {offset : Offset} {mark : Mark}
    (small : photo.width ≤ Codec.roomLimit ∧ photo.height ≤ Codec.roomLimit)
    (mem : mark ∈ windowMarks window photo offset) : mark.IsWithinReach := by
  unfold windowMarks at mem
  split at mem
  · cases mem
  · next w =>
    split at mem
    · next fits =>
      rcases List.mem_append.1 mem with border | cross
      · refine Mark.isWithinReach_of_mem_borders border fun r listed o outline => ?_
        obtain rfl := List.mem_singleton.1 listed
        have left := w.range_le_x
        have top := w.range_le_y
        have side : w.size ≤ 2 * w.range + 1 := Nat.min_le_left ..
        obtain ⟨right, bottom⟩ := fits
        refine Rect.isWithinReach_of_outline? outline ?_ ?_ <;> simp only [DriftWindow.rect] <;>
          omega
      · obtain rfl := List.mem_singleton.1 cross
        trivial
    · cases mem

/-- No word that was answered lies too far away to be outlined by every library. -/
def EngineEvent.Near (e : EngineEvent) : Prop :=
  ∀ words, e = .recognize (.ok words) → ∀ w ∈ words, ∀ o ∈ w.bounds.outline?, o.IsWithinReach

theorem Search.near_of_mem_words {s : Search} (near : ∀ e ∈ s.events, e.Near) :
    ∀ w ∈ s.words, ∀ o ∈ w.bounds.outline?, o.IsWithinReach := by
  unfold words
  split
  · next words answered => exact near (.recognize (.ok words)) (by simp [events, answered]) words rfl
  · simp

namespace TextRecognizer
variable (r : TextRecognizer) (photo : RgbaImage) (offset : Offset)

theorem size_paper_le : (r.paper photo offset).width ≤ photo.width ∧
    (r.paper photo offset).height ≤ photo.height := by
  obtain ⟨width, height⟩ := size_cleanImage r.curve (r.part? offset photo) photo
  rw [paper, width, height]
  exact size_cutOut_le (r.part? offset photo) photo

/-- The search rectangles lie on the paper. -/
theorem place_le (region : Region) :
    (r.place photo offset region).left + (r.place photo offset region).width ≤ photo.width ∧
      (r.place photo offset region).top + (r.place photo offset region).height ≤ photo.height := by
  obtain ⟨width, height⟩ := r.size_paper_le photo offset
  obtain ⟨right, bottom⟩ : (r.place photo offset region).left +
        (r.place photo offset region).width ≤ (r.paper photo offset).width ∧
      (r.place photo offset region).top +
        (r.place photo offset region).height ≤ (r.paper photo offset).height :=
    region.bounds.rectIn_le _ _ _ _ _
  exact ⟨Nat.le_trans right width, Nat.le_trans bottom height⟩

end TextRecognizer

namespace Session
variable {photo : RgbaImage} {offset : Offset} {s : Session}

theorem width_of_mem_frames {f : Frame} (mem : f ∈ s.frames photo offset) :
    f.image.width ≤ photo.width := by
  rcases s with ⟨r, cause | cause | searches⟩
  · cases mem
  · exact (isPart_of_mem_cleanFrames mem).width_le
  · rcases List.mem_append.1 mem with stage | overlay
    · exact (isPart_of_mem_cleanFrames stage).width_le
    · obtain rfl := List.mem_singleton.1 overlay
      exact (r.size_paper_le photo offset).1

theorem isWithinReach_of_mem_frames
    (small : photo.width ≤ Codec.roomLimit ∧ photo.height ≤ Codec.roomLimit)
    (orderly : s.Orderly photo offset) (near : ∀ e ∈ s.events photo offset, e.Near)
    {f : Frame} (mem : f ∈ s.frames photo offset) {mark : Mark} (own : mark ∈ f.marks) :
    mark.IsWithinReach := by
  rcases s with ⟨r, cause | cause | searches⟩
  · cases mem
  · simp [(isPart_of_mem_cleanFrames mem).marks_eq] at own
  rcases List.mem_append.1 mem with stage | overlay
  · simp [(isPart_of_mem_cleanFrames stage).marks_eq] at own
  obtain rfl := List.mem_singleton.1 overlay
  rcases List.mem_append.1 own with place | word
  · refine Mark.isWithinReach_of_mem_borders place fun rect listed o outline => ?_
    obtain ⟨g, told, rfl⟩ := List.mem_map.1 listed
    obtain ⟨search, inside, rfl⟩ := List.mem_map.1 told
    obtain ⟨region, -, isAt⟩ := Search.exists_isAt_of_forall₂ orderly search inside
    obtain ⟨right, bottom⟩ := r.place_le photo offset region
    rw [← isAt.rect_eq] at right bottom
    exact Rect.isWithinReach_of_outline? outline (Nat.le_trans right small.1)
      (Nat.le_trans bottom small.2)
  · refine Mark.isWithinReach_of_mem_borders word fun rect listed o outline => ?_
    obtain ⟨g, told, within⟩ := List.mem_flatMap.1 listed
    obtain ⟨w, found, rfl⟩ := List.mem_map.1 within
    obtain ⟨search, inside, rfl⟩ := List.mem_map.1 told
    have asked : ∀ e ∈ search.events, e.Near := by
      intro e event
      refine near e ?_
      simp only [events, List.mem_cons, List.mem_append, List.mem_flatMap]
      exact .inr (.inr (.inl ⟨search, inside, event⟩))
    exact Search.near_of_mem_words asked w found o outline

end Session

namespace Meter
variable {m : Meter} {photo : RgbaImage}

theorem width_of_mem_driftFrames {f : Frame} (mem : f ∈ m.driftFrames photo) :
    f.image.width ≤ (m.upright photo).width := by
  rcases List.mem_append.1 mem with edges | source
  · cases window : m.window with
    | none => simp [window] at edges
    | some w =>
      rw [window] at edges
      exact (w.isPart_of_mem_edgeFrames edges).width_le
  · obtain rfl := List.mem_singleton.1 source
    exact Nat.le_refl _

theorem isWithinReach_of_mem_driftFrames
    (small : (m.upright photo).width ≤ Codec.roomLimit ∧
      (m.upright photo).height ≤ Codec.roomLimit)
    {f : Frame} (mem : f ∈ m.driftFrames photo) {mark : Mark} (own : mark ∈ f.marks) :
    mark.IsWithinReach := by
  rcases List.mem_append.1 mem with edges | source
  · cases window : m.window with
    | none => simp [window] at edges
    | some w =>
      rw [window] at edges
      simp [(w.isPart_of_mem_edgeFrames edges).marks_eq] at own
  · obtain rfl := List.mem_singleton.1 source
    exact isWithinReach_of_mem_windowMarks small own

/-- The montage of a tour comes to an end with a library that always draws, and with every library
if all words are near. -/
theorem exists_keepFrames_of_tour [ImageLibrary] {files : Files}
    (readable : files.picture? m.file = some photo) {sessions : List Session}
    (tour : Tour (m.upright photo) (m.offset photo) m.textRecognizers sessions)
    (near : ImageLibrary.AlwaysDraws ∨
      ∀ e ∈ sessions.flatMap (Session.events (m.upright photo) (m.offset photo)), e.Near) :
    ∃ written, m.keepFrames files (m.driftFrames photo ++
      sessions.flatMap (Session.frames (m.upright photo) (m.offset photo))) = some written := by
  have small : (m.upright photo).width ≤ Codec.roomLimit ∧
      (m.upright photo).height ≤ Codec.roomLimit := by
    obtain ⟨extension, -, read⟩ := Option.bind_eq_some_iff.1 readable
    obtain ⟨content, -, decoded⟩ := Option.bind_eq_some_iff.1 read
    rw [upright, (photo.size_rotate _).1, (photo.size_rotate _).2]
    exact ImageLibrary.side_le_of_decode? decoded
  refine m.exists_keepFrames files (near.imp_right fun near f mem mark own => ?_) fun f mem => ?_
  · rcases List.mem_append.1 mem with drift | seen
    · exact isWithinReach_of_mem_driftFrames small drift own
    · obtain ⟨session, inside, shown⟩ := List.mem_flatMap.1 seen
      exact Session.isWithinReach_of_mem_frames small (tour.orderly session inside)
        (fun e event => near e (List.mem_flatMap.2 ⟨session, inside, event⟩)) shown own
  · refine Nat.le_trans ?_ small.1
    rcases List.mem_append.1 mem with drift | seen
    · exact width_of_mem_driftFrames drift
    · obtain ⟨session, -, shown⟩ := List.mem_flatMap.1 seen
      exact Session.width_of_mem_frames shown

/-- A cycle comes to an end if it leaves no montage or that does. -/
theorem exists_files_read {σ α : Type} [Amount α] [ImageLibrary] (b : Backend σ) (m : Meter)
    (files : Files) (limit : Nat) (time : Timestamp) (s : σ)
    (near : m.debug = false ∨ ImageLibrary.AlwaysDraws ∨
      ∀ e ∈ (m.read (α := α) b.traced files limit time (s, [])).2.2, e.Near) :
    ∃ written, (m.read (α := α) b files limit time s).1.files = some written := by
  by_cases idle : limit = 0 ∨ files.picture? m.file = none
  · exact ⟨files, by rw [m.read_eq_of_nothing_to_read b files time idle s]⟩
  obtain ⟨room, present⟩ := not_or.1 idle
  obtain ⟨photo, readable⟩ := Option.ne_none_iff_exists'.1 present
  obtain ⟨sessions, t, tour, ran, traced⟩ :=
    m.read_traced (α := α) b files time room readable s []
  rw [traced, List.nil_append] at near
  rw [ran, cycleOf]
  cases sessions.findSome? Session.halt? with
  | some cause => exact ⟨files, rfl⟩
  | none =>
    rcases near with plain | near
    · exact ⟨files, by simp [plain]⟩
    · obtain ⟨written, kept⟩ := exists_keepFrames_of_tour readable tour near
      by_cases debug : m.debug = true
      · exact ⟨written, by simpa [debug] using kept⟩
      · exact ⟨files, by simp [debug]⟩

end Meter
end MeterSight
