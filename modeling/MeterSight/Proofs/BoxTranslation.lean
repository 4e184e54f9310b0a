import MeterSight.Image.Mark
import MeterSight.Proofs.EngineHistory

/-!
# Boxes past the last coordinate

An engine program may tell any number of 32 bits for a box. The box is then moved to its place in
the image, in unsigned coordinates, and outlined, in signed ones. Both wrap around: this module
says for which numbers, and that they never do for a box inside the picture that was searched.
-/
namespace MeterSight
open Decimal

/-! ### Outlines -/

/-- How many numbers from zero on are also signed numbers of 32 bits. -/
def signedRoom : Nat := 0x80000000

theorem signed32_eq_iff {n : Int} (h : 0 ≤ n) : signed32 n = n ↔ n < signedRoom := by
  simp only [signed32, signedRoom, Int.bmod]
  split <;> omega

/-- Only where an edge ends up tells whether it wraps around. -/
theorem signed32_edge (start size : Int) :
    signed32 (signed32 start + signed32 size - 1) = signed32 (start + size - 1) := by
  calc signed32 (signed32 start + signed32 size - 1)
    _ = signed32 (signed32 start + (signed32 size - 1)) := by rw [Int.add_sub_assoc]
    _ = signed32 (start + (signed32 size - 1)) := Int.bmod_add_bmod
    _ = signed32 (signed32 size + (start - 1)) := congrArg signed32 (by omega)
    _ = signed32 (size + (start - 1)) := Int.bmod_add_bmod
    _ = signed32 (start + size - 1) := congrArg signed32 (by omega)

/-- An outline has the edges of a rectangle that are not too far to the right or too far down, and
no others. -/
structure Rect.IsOutlined (r : Rect) (o : Outline) : Prop where
  left_iff : o.left = r.left ↔ r.left < signedRoom
  top_iff : o.top = r.top ↔ r.top < signedRoom
  right_iff : o.right = r.left + r.width - 1 ↔ r.left + r.width ≤ signedRoom
  bottom_iff : o.bottom = r.top + r.height - 1 ↔ r.top + r.height ≤ signedRoom

theorem Rect.exists_isOutlined {r : Rect} (pixels : ¬ r.IsEmpty) :
    ∃ o, r.outline? = some o ∧ r.IsOutlined o := by
  have wide : 0 < r.width := Nat.pos_of_ne_zero fun none => pixels (.inl none)
  have high : 0 < r.height := Nat.pos_of_ne_zero fun none => pixels (.inr none)
  refine ⟨_, by rw [outline?, if_neg pixels], ?_, ?_, ?_, ?_⟩
  · rw [signed32_eq_iff (by omega), Int.ofNat_lt]
  · rw [signed32_eq_iff (by omega), Int.ofNat_lt]
  · have kept := signed32_eq_iff (n := r.left + r.width - 1) (by omega)
    rw [← signed32_edge] at kept
    simp only [kept]
    omega
  · have kept := signed32_eq_iff (n := r.top + r.height - 1) (by omega)
    rw [← signed32_edge] at kept
    simp only [kept]
    omega

/-! ### Words of a program -/

/-- What becomes of a word that a program tells of the searched area: its box is moved by the corner
of the area, which is right just where the sum is a coordinate, and its outline is right just where
the box has signed coordinates. -/
structure Word.IsBoxed (area : Rect) (told word : Word) : Prop where
  text_eq : word.text = told.text
  confidence_eq : word.confidence = told.confidence
  width_eq : word.bounds.width = told.bounds.width
  height_eq : word.bounds.height = told.bounds.height
  left_eq : word.bounds.left = (area.left + told.bounds.left) % (maxUInt32 + 1)
  top_eq : word.bounds.top = (area.top + told.bounds.top) % (maxUInt32 + 1)
  left_iff : word.bounds.left = area.left + told.bounds.left ↔
    area.left + told.bounds.left ≤ maxUInt32
  top_iff : word.bounds.top = area.top + told.bounds.top ↔
    area.top + told.bounds.top ≤ maxUInt32
  outlined : ¬ word.bounds.IsEmpty →
    ∃ o, word.bounds.outline? = some o ∧ word.bounds.IsOutlined o

namespace WordTable

theorem translate_eq_iff {origin v : Nat} : translate origin v = origin + v ↔
    origin + v ≤ maxUInt32 := by
  unfold translate maxUInt32
  omega

theorem isBoxed_move (area : Rect) (told : Word) :
    Word.IsBoxed area told (move area.left area.top told) :=
  ⟨rfl, rfl, rfl, rfl, rfl, rfl, translate_eq_iff, translate_eq_iff, Rect.exists_isOutlined⟩

theorem forall₂_isBoxed (area : Rect) (table : List Char) :
    List.Forall₂ (Word.IsBoxed area) (words 0 0 table) (words area.left area.top table) := by
  rw [words_eq_map area.left, List.forall₂_map_right_iff, List.forall₂_same]
  exact fun told _ => isBoxed_move area told

end WordTable

/-- A box inside the picture of the area is moved and outlined as it should be, if the area ends
before the signed coordinates do. -/
theorem Word.IsBoxed.eq_of_inside {area : Rect} {told word : Word} (h : Word.IsBoxed area told word)
    (inside : told.bounds.left + told.bounds.width ≤ area.width ∧
      told.bounds.top + told.bounds.height ≤ area.height)
    (room : area.left + area.width ≤ signedRoom ∧ area.top + area.height ≤ signedRoom)
    (pixels : ¬ word.bounds.IsEmpty) :
    word.bounds = told.bounds.move area.left area.top ∧
      word.bounds.outline? = some ⟨word.bounds.left, word.bounds.top,
        word.bounds.left + word.bounds.width - 1, word.bounds.top + word.bounds.height - 1⟩ := by
  obtain ⟨o, outline, kept⟩ := h.outlined pixels
  have wide : 0 < word.bounds.width := Nat.pos_of_ne_zero fun none => pixels (.inl none)
  have high : 0 < word.bounds.height := Nat.pos_of_ne_zero fun none => pixels (.inr none)
  have width := h.width_eq
  have height := h.height_eq
  have signed : signedRoom ≤ maxUInt32 := by decide
  have left := h.left_iff.2 (by omega)
  have top := h.top_iff.2 (by omega)
  constructor
  · rw [Rect.move, Nat.add_comm told.bounds.left, Nat.add_comm told.bounds.top, ← left, ← top,
      ← width, ← height]
  · rw [outline, ← kept.right_iff.2 (by omega), ← kept.bottom_iff.2 (by omega),
      ← kept.left_iff.2 (by omega), ← kept.top_iff.2 (by omega)]

namespace ProgramEngine
variable {σ : Type}

/-- Whatever a program prints about the area it has searched: the words are those that it tells, and
a box lies where it belongs iff its sum with the corner of the area is a coordinate, and is outlined
there iff it has signed coordinates. -/
theorem recognize_boxes (system : ProgramSystem σ) {e : ProgramEngine} {img : GrayImage}
    {s t u : σ} {output complaint : List UInt8} (image : e.image = some img)
    (pixels : ¬ (e.searchArea img).IsEmpty)
    (saved : system.savePicture (img.crop (e.searchArea img)) s = (.ok (), t))
    (ran : system.launch (e.settings.searchLaunch (img.crop (e.searchArea img))) t =
      (.finished true output complaint, u)) :
    ∃ words, e.recognize system s = (.ok words, u) ∧
      List.Forall₂ (Word.IsBoxed (e.searchArea img))
        (WordTable.words 0 0 (Text.decodeLossy output)) words := by
  refine ⟨_, ?_, WordTable.forall₂_isBoxed (e.searchArea img) (Text.decodeLossy output)⟩
  simp only [recognize, image, if_neg pixels, stateM_bind_apply, saved, searchPicture, ran,
    stateM_pure_apply]

end ProgramEngine

namespace Sample

/-- A table with a word at the last coordinate, and one at the last signed coordinate. -/
def farTable : List UInt8 :=
  ("heading\n5\t1\t1\t1\t1\t1\t4294967295\t0\t1\t1\t90\t7\n" ++
    "5\t1\t1\t1\t1\t1\t2147483647\t0\t1\t1\t90\t8\n").toList.map fun c => c.val.toUInt8

/-- Moved by one, the first comes to lie in the first column, and the second is not outlined where
it lies. -/
theorem recognize_boxes_far :
    let settings : EngineSettings := ⟨"eng", meterCharacters, .singleBlock, "tesseract", none⟩
    let e : ProgramEngine := ⟨settings, some (Image.filled 4 3 255), some ⟨1, 0, 2, 2⟩⟩
    let system := printing farTable
    (WordTable.words 0 0 (Text.decodeLossy farTable)).map Word.bounds =
        [⟨4294967295, 0, 1, 1⟩, ⟨2147483647, 0, 1, 1⟩] ∧
      ∃ first second o, e.recognize system () = (.ok [first, second], ()) ∧
        first.bounds.left = 0 ∧ second.bounds.left = 2147483648 ∧
        second.bounds.outline? = some o ∧ o.left ≠ 2147483648 := by
  intro settings e system
  have legible (picture : GrayImage) : (settings.searchLaunch picture).hasNul = false := by
    simp [Launch.hasNul, EngineSettings.searchLaunch, settings, pictureName, meterCharacters,
      Segmentation.mode]
  have ran : system.launch (settings.searchLaunch ((Image.filled 4 3 255).crop ⟨1, 0, 2, 2⟩)) () =
      (.finished true farTable [], ()) := by
    rw [ProgramSystem.launch, legible]
    rfl
  have told : (WordTable.words 0 0 (Text.decodeLossy farTable)).map Word.bounds =
      [⟨4294967295, 0, 1, 1⟩, ⟨2147483647, 0, 1, 1⟩] := by decide +kernel
  obtain ⟨words, found, boxed⟩ := ProgramEngine.recognize_boxes system (e := e) rfl (by decide) rfl ran
  refine ⟨told, ?_⟩
  obtain ⟨a, rest, split, firstBounds, restBounds⟩ := List.map_eq_cons_iff.1 told
  obtain ⟨b, _, rfl, secondBounds, last⟩ := List.map_eq_cons_iff.1 restBounds
  obtain rfl := List.map_eq_nil_iff.1 last
  rw [split] at boxed
  obtain ⟨w, _, first, more, rfl⟩ := List.forall₂_cons_left_iff.1 boxed
  obtain ⟨v, _, second, none, rfl⟩ := List.forall₂_cons_left_iff.1 more
  obtain rfl := List.forall₂_nil_left_iff.1 none
  have area : e.searchArea (Image.filled 4 3 255) = ⟨1, 0, 2, 2⟩ := by decide
  have left : w.bounds.left = 0 := by
    rw [first.left_eq, firstBounds, area]
    decide
  have left' : v.bounds.left = 2147483648 := by
    rw [second.left_eq, secondBounds, area]
    decide
  have width := second.width_eq
  have height := second.height_eq
  rw [secondBounds] at width height
  have pixels : ¬ v.bounds.IsEmpty := by
    rw [Rect.IsEmpty, width, height]
    decide
  obtain ⟨o, outline, kept⟩ := second.outlined pixels
  refine ⟨w, v, o, found, left, left', outline, fun same => ?_⟩
  have signed := kept.left_iff.1 (by rw [same, left']; rfl)
  rw [left'] at signed
  exact absurd signed (by decide)

end Sample
end MeterSight
