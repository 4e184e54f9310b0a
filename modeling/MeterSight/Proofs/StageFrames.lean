import Mathlib.Data.List.Forall2
import Mathlib.Data.List.ReduceOption
import MeterSight.Cleaning

/-!
# The frames of a chain

An image passes a chain of stages with the frames that there are taken along, if frames are
collected. Each stage that makes an image puts one frame behind them, of just the image that the
next stage is given, and a stage that declines leaves no frame. Whether frames are collected does
not matter for the image.
-/
namespace MeterSight

namespace Frame
variable [ImageLibrary]

/-- A frame with a title that is rendered to the opaque colors of a gray image. -/
structure Shows (f : Frame) (p : String × GrayImage) : Prop where
  title_eq : f.title = p.1
  rendered : ∃ shown, f.render? = some shown ∧ shown.width = p.2.width ∧
    shown.height = p.2.height ∧ ∀ x y, x < p.2.width → y < p.2.height →
      shown.pixel x y = ⟨p.2.pixel x y, p.2.pixel x y, p.2.pixel x y, 255⟩

theorem shows_ofGray (title : String) (img : GrayImage) : (ofGray title img).Shows (title, img) where
  title_eq := rfl
  rendered := ⟨img.toRgba, rfl, rfl, rfl, fun _ _ hx hy => Image.pixel_map _ img hx hy⟩

end Frame

/-! ## What stages make -/

namespace Stage

/-- What each stage of a chain makes, if it makes something. -/
def outputs : List Stage → GrayImage → List (Option GrayImage)
  | [], _ => []
  | stage :: more, img => stage.apply img :: outputs more ((stage.apply img).getD img)

/-- The last image that was made, or the one there was at first. -/
def latest (outputs : List (Option GrayImage)) (img : GrayImage) : GrayImage :=
  outputs.reduceOption.getLastD img

/-- The images that were made, with the titles of their stages. -/
def made (stages : List Stage) (outputs : List (Option GrayImage)) : List (String × GrayImage) :=
  (stages.zip outputs).filterMap fun p => p.2.map (p.1.title, ·)

@[simp] theorem latest_nil (img : GrayImage) : latest [] img = img := rfl

@[simp] theorem latest_cons (output : Option GrayImage) (rest : List (Option GrayImage))
    (img : GrayImage) : latest (output :: rest) img = latest rest (output.getD img) := by
  cases output with
  | none => rw [latest, List.reduceOption_cons_of_none, latest, Option.getD_none]
  | some next => rw [latest, List.reduceOption_cons_of_some, List.getLastD_cons, latest,
      Option.getD_some]

variable {stages : List Stage}

@[simp] theorem length_outputs (stages : List Stage) (img : GrayImage) :
    (outputs stages img).length = stages.length := by
  induction stages generalizing img with
  | nil => rfl
  | cons stage more ih => simp [outputs, ih]

/-- Every stage has an output, which it makes of the latest image before it. -/
def IsFed (stages : List Stage) (img : GrayImage) (outputs : List (Option GrayImage)) : Prop :=
  ∀ i : Nat, outputs[i]? = stages[i]?.map fun stage => stage.apply (latest (outputs.take i) img)

theorem isFed_outputs (stages : List Stage) (img : GrayImage) :
    IsFed stages img (outputs stages img) := by
  intro i
  induction stages generalizing img i with
  | nil => rfl
  | cons stage more ih =>
    cases i with
    | zero => simp [outputs]
    | succ i => simp [outputs, ih]

/-- Without the titles, these are the images that were made, in their order. -/
theorem map_snd_made {outputs : List (Option GrayImage)} (each : outputs.length = stages.length) :
    (made stages outputs).map Prod.snd = outputs.reduceOption := by
  have untitled : (made stages outputs).map Prod.snd =
      ((stages.zip outputs).map Prod.snd).filterMap id := by
    rw [made, List.map_filterMap, List.filterMap_map]
    congr 1
    funext p
    rw [Function.comp_apply, Option.map_map]
    exact Option.map_id'
  rw [untitled, List.map_snd_zip (Nat.le_of_eq each), List.reduceOption]

/-- The image that a chain gives. -/
def result (stages : List Stage) (img : GrayImage) : GrayImage :=
  stages.foldl (fun img stage => (stage.apply img).getD img) img

theorem latest_outputs (stages : List Stage) (img : GrayImage) :
    latest (outputs stages img) img = result stages img := by
  induction stages generalizing img with
  | nil => rfl
  | cons stage more ih => rw [outputs, latest_cons, ih, result, result, List.foldl_cons]

/-- The frames that a chain leaves. -/
def frames (stages : List Stage) (img : GrayImage) : List Frame :=
  (made stages (outputs stages img)).map fun p => Frame.ofGray p.1 p.2

end Stage

theorem forall₂_shows_ofGray [ImageLibrary] (shown : List (String × GrayImage)) :
    List.Forall₂ Frame.Shows (shown.map fun p => Frame.ofGray p.1 p.2) shown := by
  rw [List.forall₂_map_left_iff, List.forall₂_same]
  exact fun p _ => Frame.shows_ofGray p.1 p.2

/-! ## Frames taken along -/

namespace Passage

theorem pass_mk (stage : Stage) (img : GrayImage) (held : Option (List Frame)) :
    pass ⟨img, held⟩ stage = ⟨(stage.apply img).getD img,
      held.map (· ++ ((stage.apply img).map (Frame.ofGray stage.title)).toList)⟩ := by
  cases made : stage.apply img <;> simp [pass, note, made]

/-- Frames or not, a chain gives the same image, and puts the same frames behind those there are. -/
theorem foldl_pass (stages : List Stage) (img : GrayImage) (held : Option (List Frame)) :
    stages.foldl pass ⟨img, held⟩ =
      ⟨Stage.result stages img, held.map (· ++ Stage.frames stages img)⟩ := by
  induction stages generalizing img held with
  | nil => simp [Stage.result, Stage.frames, Stage.made]
  | cons stage more ih =>
    rw [List.foldl_cons, pass_mk, ih]
    cases output : stage.apply img <;>
      simp [Stage.result, Stage.frames, Stage.made, Stage.outputs, output, Function.comp_def]

end Passage

/-! ## The frames of cleaning -/

section clean
variable (c : GammaCurve) (part : Option Rect) (photo : RgbaImage)

/-- The part that is cut out of a photo, or the whole photo. -/
def cutOut : RgbaImage := (part.filter (¬ ·.IsEmpty)).elim photo photo.crop

/-- What becomes of a photo. -/
def cleanImage : GrayImage := Stage.result (cleaningStages c) (cutOut part photo).toGray

/-- The frame of the part that is cut out, if one is. -/
def cutFrames : List Frame :=
  ((part.filter (¬ ·.IsEmpty)).map fun _ => Frame.ofColor "crop" (cutOut part photo)).toList

theorem map_shown_cutFrames [ImageLibrary] :
    ((cutFrames part photo).map fun f => (f.title, f.render?)) =
      ((part.filter (¬ ·.IsEmpty)).map fun _ => ("crop", some (cutOut part photo))).toList := by
  unfold cutFrames
  cases part.filter (¬ ·.IsEmpty) <;> rfl

/-- The gray images of a cleaning with their titles, if this is what its stages make. -/
def grayShown (outputs : List (Option GrayImage)) : List (String × GrayImage) :=
  ("grayscale", (cutOut part photo).toGray) :: Stage.made (cleaningStages c) outputs

/-- The frames that a cleaning leaves. -/
def cleanFrames : List Frame :=
  cutFrames part photo ++
    (grayShown c part photo (Stage.outputs (cleaningStages c) (cutOut part photo).toGray)).map
      fun p => Frame.ofGray p.1 p.2

/-- Frames or not, a photo is cleaned in the same way, and the same frames are put behind those
there are. -/
theorem clean_mk (held : Option (List Frame)) :
    clean c part ⟨photo, held⟩ =
      ⟨cleanImage c part photo, held.map (· ++ cleanFrames c part photo)⟩ := by
  unfold clean cleanImage cleanFrames cutFrames grayShown cutOut
  cases part.filter (¬ ·.IsEmpty) <;>
    simp [Passage.convert, Passage.note, Passage.foldl_pass, Stage.frames, Function.comp_def]

/-- The last gray image that is shown is the result, also where all stages decline. -/
theorem getLast?_grayShown {outputs : List (Option GrayImage)}
    (each : outputs.length = (cleaningStages c).length) :
    (grayShown c part photo outputs).getLast?.map Prod.snd =
      some (Stage.latest outputs (cutOut part photo).toGray) := by
  rw [grayShown, ← List.getLast?_map, List.map_cons, Stage.map_snd_made each, List.getLast?_cons,
    Stage.latest, List.getLastD_eq_getLast?]

/-- The part that is cut out shows the pixels inside the rectangle. -/
theorem pixel_cutOut {r : Rect} (cut : part.filter (¬ ·.IsEmpty) = some r)
    (inside : r.left + r.width ≤ photo.width ∧ r.top + r.height ≤ photo.height) :
    (cutOut part photo).width = r.width ∧ (cutOut part photo).height = r.height ∧
      ∀ x y, x < r.width → y < r.height →
        (cutOut part photo).pixel x y = photo.pixel (r.left + x) (r.top + y) := by
  rw [cutOut, cut]
  exact ⟨photo.width_crop inside.1, photo.height_crop inside.2,
    fun x y hx hy => photo.pixel_crop hx hy (by omega) (by omega)⟩

end clean

namespace Passage

/-- Whatever frames there were, a chain puts one behind them for each stage that makes an image, and
none for a stage that declines. Each shows just the image that the next stage is given, which is the
latest one made, and so is the result. Cleaning is such a chain, behind a frame of the part that is
cut out, if one is, and a frame of its gray levels. A gray image is shown in opaque gray, pixel by
pixel. -/
theorem frames_show_images [ImageLibrary] (c : GammaCurve) (part : Option Rect) (photo : RgbaImage)
    (stages : List Stage) (img : GrayImage) (held : Option (List Frame)) :
    (∃ outputs added, Stage.IsFed stages img outputs ∧
      stages.foldl pass ⟨img, held⟩ = ⟨Stage.latest outputs img, held.map (· ++ added)⟩ ∧
      List.Forall₂ Frame.Shows added (Stage.made stages outputs)) ∧
    (cleaningStages c).map Stage.title =
      ["gamma", "unsharp mask", "background normalization", "smooth", "binarize"] ∧
    let cut := part.filter (¬ ·.IsEmpty)
    let source := cut.elim photo photo.crop
    (∀ r ∈ cut, r.left + r.width ≤ photo.width ∧ r.top + r.height ≤ photo.height →
      source.width = r.width ∧ source.height = r.height ∧
        ∀ x y, x < r.width → y < r.height →
          source.pixel x y = photo.pixel (r.left + x) (r.top + y)) ∧
    ∃ outputs before added, Stage.IsFed (cleaningStages c) source.toGray outputs ∧
      clean c part ⟨photo, held⟩ =
        ⟨Stage.latest outputs source.toGray, held.map (· ++ (before ++ added))⟩ ∧
      (before.map fun f => (f.title, f.render?)) = (cut.map fun _ => ("crop", some source)).toList ∧
      List.Forall₂ Frame.Shows added
        (("grayscale", source.toGray) :: Stage.made (cleaningStages c) outputs) ∧
      ∃ last, added.getLast? = some last ∧
        last.Shows (last.title, Stage.latest outputs source.toGray) := by
  refine ⟨⟨Stage.outputs stages img, Stage.frames stages img, Stage.isFed_outputs stages img, ?_,
    forall₂_shows_ofGray _⟩, rfl, ?_⟩
  · rw [foldl_pass, Stage.latest_outputs]
  · intro cut source
    let outputs := Stage.outputs (cleaningStages c) source.toGray
    let shown := grayShown c part photo outputs
    refine ⟨fun r mem inside => pixel_cutOut part photo mem inside, outputs, cutFrames part photo,
      shown.map fun p => Frame.ofGray p.1 p.2, Stage.isFed_outputs (cleaningStages c) source.toGray,
      ?_, map_shown_cutFrames part photo, forall₂_shows_ofGray shown, ?_⟩
    · rw [clean_mk, Stage.latest_outputs]
      rfl
    · have each : outputs.length = (cleaningStages c).length := Stage.length_outputs _ _
      obtain ⟨p, ends, same⟩ := Option.map_eq_some_iff.1 (getLast?_grayShown c part photo each)
      have result : Stage.latest outputs source.toGray = p.2 := same.symm
      have last : (shown.map fun p => Frame.ofGray p.1 p.2).getLast? =
          some (Frame.ofGray p.1 p.2) := by
        rw [List.getLast?_map, ends, Option.map_some]
      exact ⟨_, last, result ▸ Frame.shows_ofGray p.1 p.2⟩

/-- A stage that declines leaves no frame, and the next one is given what was there before. -/
example :
    let stages : List Stage :=
      [⟨"nothing", fun _ => none⟩, ⟨"inverse", fun img => some (img.map (255 - ·))⟩]
    (stages.foldl pass ⟨Image.filled 1 1 7, some []⟩).frames.map (·.map Frame.title) =
      some ["inverse"] :=
  rfl

end Passage

end MeterSight
