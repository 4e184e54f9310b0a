import MeterSight.Meter
import MeterSight.Proofs.BoxCoordinates
import MeterSight.Proofs.Double
import MeterSight.Proofs.Session

/-!
# Which settings make a meter

Settings make a meter if they are sound: there is a file and a recognizer, every recognizer has
regions, every region has a name and no inverted box, and where characters are read the gamma curve
rises. The meter then has the recognizers that are listed, in order, each with its regions in order.
Otherwise the refusal tells something that is wrong with them.
-/
namespace MeterSight

theorem TextRecognizer.exists_new? {regions : List Region} (ne : regions ≠ []) (curve : GammaCurve)
    (language executable : String) (dataDirectory : Option String) :
    ∃ t, new? regions curve language executable dataDirectory = .ok t ∧ t.regions = regions ∧
      t.curve = curve ∧ t.settings.language = language ∧ t.settings.executable = executable ∧
      t.settings.dataDirectory = dataDirectory :=
  ⟨_, dif_neg ne, rfl, rfl, rfl, rfl, rfl⟩

namespace RecognizerSettings

/-- The gamma curve that is meant. -/
def meantCurve (s : RecognizerSettings) : GammaCurve :=
  ⟨s.gamma.getD 1.0, s.black.getD 50, s.white.getD 120⟩

/-- The curve has a positive exponent and rises. -/
def SoundCurve (s : RecognizerSettings) : Prop :=
  0.0 < s.meantCurve.gamma ∧ s.meantCurve.black < s.meantCurve.white

/-- A recognizer with regions. The gamma curve matters only where characters are read. -/
structure Sound (s : RecognizerSettings) : Prop where
  regions_ne_nil : s.regions ≠ []
  regions : ∀ region ∈ s.regions, region.Sound
  curve : s.kind = .tesseract → s.SoundCurve

/-- What can be wrong with a recognizer. -/
inductive Fault (s : RecognizerSettings) : ConfigError → Prop where
  | noRegions : s.regions = [] → Fault s (.noRegions s.kind)
  | region {region e} : region ∈ s.regions → region.Fault e → Fault s e
  | gamma : s.kind = .tesseract → ¬ 0.0 < s.meantCurve.gamma →
      Fault s (.gammaNotPositive s.meantCurve.gamma)
  | levels : s.kind = .tesseract → ¬ s.meantCurve.black < s.meantCurve.white →
      Fault s (.whiteNotAboveBlack s.meantCurve.white s.meantCurve.black)

/-- A recognizer is the one that the settings describe. -/
structure Describes (s : RecognizerSettings) (r : Recognizer) : Prop where
  kind : r.kind = s.kind
  regions : List.Forall₂ RegionSettings.Describes s.regions r.regions
  curve : ∀ t, r = .text t → t.curve = s.meantCurve
  engine : ∀ t, r = .text t → t.settings.language = s.language.getD defaultLanguage ∧
    t.settings.executable = s.executable.getD defaultExecutable ∧
    t.settings.dataDirectory = s.dataDirectory

theorem sound_iff_of_needle (s : RecognizerSettings) (kind : s.kind = .needle) :
    s.Sound ↔ s.regions ≠ [] ∧ ∀ region ∈ s.regions, region.Sound :=
  ⟨fun sound => ⟨sound.1, sound.2⟩, fun sound => ⟨sound.1, sound.2, by simp [kind]⟩⟩

theorem verdict_regionList (s : RecognizerSettings) :
    Verdict (s.regions ≠ [] ∧ ∀ region ∈ s.regions, region.Sound)
      (fun regions => regions ≠ [] ∧ List.Forall₂ RegionSettings.Describes s.regions regions)
      s.Fault s.regionList := by
  unfold regionList
  split
  next none => exact .refused (fun sound => sound.1 none) (.noRegions none)
  next some =>
    refine (Verdict.mapM RegionSettings.verdict_region s.regions).imp ?_ ?_ ?_
    · exact iff_and_self.2 fun _ => some
    · intro regions described
      refine ⟨fun nil => ?_, described⟩
      subst nil
      exact some (List.forall₂_nil_right_iff.1 described)
    · rintro e ⟨region, mem, fault⟩
      exact .region mem fault

theorem verdict_curve (s : RecognizerSettings) (kind : s.kind = .tesseract) :
    Verdict s.SoundCurve (· = s.meantCurve) s.Fault s.curve := by
  show Verdict _ _ _ (GammaCurve.new? s.meantCurve.gamma s.meantCurve.black s.meantCurve.white)
  unfold GammaCurve.new?
  split
  next positive =>
    split
    next rises => exact .accepted ⟨positive, rises⟩ rfl
    next falls => exact .refused (fun sound => falls sound.2) (.levels kind falls)
  next low => exact .refused (fun sound => low sound.1) (.gamma kind low)

theorem verdict_recognizer (s : RecognizerSettings) :
    Verdict s.Sound s.Describes s.Fault s.recognizer := by
  unfold recognizer
  cases kind : s.kind with
  | needle =>
    refine (s.verdict_regionList.bind_ok fun regions described => ?_).imp ?_ (fun _ d => d)
      fun _ fault => fault
    · exact ⟨_, rfl, kind.symm, described.2, by simp, by simp⟩
    · exact (s.sound_iff_of_needle kind).symm
  | tesseract =>
    refine (s.verdict_regionList.bind fun regions described =>
      (s.verdict_curve kind).bind_ok fun curve meant => ?_).imp ?_ (fun _ d => d)
      fun _ fault => fault.elim id id
    · subst meant
      obtain ⟨t, made, rfl, curve, engine⟩ := TextRecognizer.exists_new? described.1 s.meantCurve
        (s.language.getD defaultLanguage) (s.executable.getD defaultExecutable) s.dataDirectory
      refine ⟨.text t, ?_, kind.symm, described.2, ?_, ?_⟩
      · simp only [made]
        rfl
      · rintro _ ⟨⟩
        exact curve
      · rintro _ ⟨⟩
        exact engine
    · exact ⟨fun ⟨regions, curve⟩ => ⟨regions.1, regions.2, fun _ => curve⟩,
        fun sound => ⟨⟨sound.1, sound.2⟩, sound.3 kind⟩⟩

end RecognizerSettings

namespace Settings

/-- The recognizer that is meant by regions without one. -/
def ownerless (regions : List RegionSettings) : RecognizerSettings :=
  { RecognizerSettings.ofKind .tesseract with regions }

/-- The recognizers that are meant: those listed or, if there are none, one for the regions without
a recognizer. -/
def meantRecognizers (s : Settings) : List RecognizerSettings :=
  match s.recognizers with
  | [] => [ownerless s.regions]
  | listed => listed

/-- Settings that make sense. Drift is not asked about. -/
structure Sound (s : Settings) : Prop where
  file : ∃ file ∈ s.file, file ≠ ""
  recognizer : s.recognizers ≠ [] ∨ s.regions ≠ []
  recognizers : ∀ r ∈ s.meantRecognizers, r.Sound

/-- What can be wrong with settings. -/
inductive Fault (s : Settings) : ConfigError → Prop where
  | missingFile : (∀ file ∈ s.file, file = "") → Fault s .missingFile
  | noRecognizer : s.recognizers = [] → s.regions = [] → Fault s .noRecognizer
  | recognizer {r e} : r ∈ s.meantRecognizers → r.Fault e → Fault s e

/-- A meter is the one that the settings describe. -/
structure Describes (s : Settings) (m : Meter) : Prop where
  file : s.file = some m.file
  rotation : m.rotation = s.rotation
  debug : m.debug = s.debug
  window : m.window = s.window?
  recognizers : List.Forall₂ RecognizerSettings.Describes s.meantRecognizers m.recognizers

theorem verdict_photoFile (s : Settings) :
    Verdict (∃ file ∈ s.file, file ≠ "") (fun file => s.file = some file) s.Fault s.photoFile := by
  unfold photoFile
  split
  next file given =>
    split
    next empty => exact .refused (by simp [given, empty]) (.missingFile (by simp [given, empty]))
    next name => exact .accepted ⟨file, given, name⟩ given
  next none => exact .refused (by simp [none]) (.missingFile (by simp [none]))

theorem verdict_recognizerList (s : Settings) :
    Verdict (s.recognizers ≠ [] ∨ s.regions ≠ []) (· = s.meantRecognizers) s.Fault
      s.recognizerList := by
  unfold recognizerList meantRecognizers
  cases listed : s.recognizers with
  | cons r more => exact .accepted (.inl (List.cons_ne_nil r more)) rfl
  | nil =>
    cases own : s.regions with
    | cons region more => exact .accepted (.inr (List.cons_ne_nil region more)) rfl
    | nil => exact .refused (by simp) (.noRecognizer listed own)

theorem verdict_meter (s : Settings) : Verdict s.Sound s.Describes s.Fault s.meter := by
  have recognizers : Verdict (∀ r ∈ s.meantRecognizers, r.Sound)
      (List.Forall₂ RecognizerSettings.Describes s.meantRecognizers) s.Fault
      (s.meantRecognizers.mapM RecognizerSettings.recognizer) := by
    refine (Verdict.mapM RecognizerSettings.verdict_recognizer _).imp .rfl (fun _ d => d) ?_
    rintro e ⟨r, mem, fault⟩
    exact .recognizer mem fault
  unfold meter
  refine (s.verdict_photoFile.bind fun file given => s.verdict_recognizerList.bind_eq
    (recognizers.bind_ok fun made described => ⟨_, rfl, given, rfl, rfl, rfl, described⟩)).imp ?_
    (fun _ d => d) fun e fault => ?_
  · exact ⟨fun ⟨file, listed, all⟩ => ⟨file, listed, all⟩, fun sound => ⟨sound.1, sound.2, sound.3⟩⟩
  · rcases fault with fault | fault | fault <;> exact fault

/-- The same settings with the recognizer listed that the regions without one would get. What is
above the list then does not matter. -/
def listing (s : Settings) (above : List RegionSettings) : Settings :=
  { s with recognizers := [ownerless s.regions], regions := above }

theorem meter_listing {s : Settings} (none : s.recognizers = []) (some : s.regions ≠ [])
    (above : List RegionSettings) : (s.listing above).meter = s.meter := by
  have listed : s.recognizerList = .ok [ownerless s.regions] := by
    simp [recognizerList, none, some, ownerless]
  unfold meter
  rw [listed]
  rfl

/-- A recognizer for no regions is refused, whether it is listed or meant. -/
theorem meter_eq_ok_iff_listing {s : Settings} (none : s.recognizers = [])
    (above : List RegionSettings) (m : Meter) :
    s.meter = .ok m ↔ (s.listing above).meter = .ok m := by
  by_cases own : s.regions = []
  · have bare : ∀ t : Settings, t.meantRecognizers = [ownerless []] → t.meter ≠ .ok m := by
      intro t meant made
      have sound := t.verdict_meter.exists_ok_iff.1 ⟨m, made⟩
      exact (sound.recognizers (ownerless []) (by simp [meant])).regions_ne_nil rfl
    have left := bare s (by simp [meantRecognizers, none, own])
    have right := bare (s.listing above) (by simp [meantRecognizers, listing, own])
    exact iff_of_false left right
  · rw [meter_listing none own]

theorem sound_iff_of_listed {s : Settings} (some : s.recognizers ≠ []) :
    s.Sound ↔ (∃ file ∈ s.file, file ≠ "") ∧ ∀ r ∈ s.recognizers, r.Sound := by
  have meant : s.meantRecognizers = s.recognizers := by
    unfold meantRecognizers
    split
    next none => exact absurd none some
    next => rfl
  constructor
  · intro sound
    exact ⟨sound.file, meant ▸ sound.recognizers⟩
  · rintro ⟨file, all⟩
    exact ⟨file, .inl some, meant ▸ all⟩

/-- A refusal is an error of the configuration that tells one of its faults. Settings are refused
only if they are not sound, for which it does not matter what is said about drift and about the
curves of needles. A meter has what the settings describe, and the older form of settings makes the
same meter as the list that it stands for. -/
theorem meter_accepted_iff (s : Settings) :
    ((∃ m, s.meter = .ok m) ↔ s.Sound) ∧
      (∀ e, s.meter.mapError MeterError.config = .error e →
        ∃ cause, e = .config cause ∧ s.Fault cause) ∧
      (∀ m, s.meter = .ok m → s.Describes m) ∧
      (s.Sound → ∀ r ∈ s.meantRecognizers, r.kind = .tesseract →
        r.meantCurve.gamma.isNaN = false) ∧
      (∀ drift, (∃ m, { s with drift }.meter = .ok m) ↔ ∃ m, s.meter = .ok m) ∧
      (∀ before r after gamma black white, s.recognizers = before ++ r :: after →
        r.kind = .needle →
        ((∃ m, { s with recognizers := before ++ { r with gamma, black, white } :: after }.meter =
          .ok m) ↔ ∃ m, s.meter = .ok m)) ∧
      (s.recognizers = [] → ∀ above m, s.meter = .ok m ↔ (s.listing above).meter = .ok m) := by
  have verdict := s.verdict_meter
  refine ⟨verdict.exists_ok_iff, ?_, fun m made => verdict.describes_of_ok made, ?_, ?_, ?_,
    meter_eq_ok_iff_listing⟩
  · intro e refused
    cases made : s.meter with
    | ok m => simp [made, Except.mapError] at refused
    | error cause =>
      have told : MeterError.config cause = e := by simpa [made, Except.mapError] using refused
      exact ⟨cause, told.symm, verdict.fault_of_error made⟩
  · intro sound r mem kind
    exact isNaN_eq_false_of_lt ((sound.recognizers r mem).curve kind).1
  · intro drift
    rw [verdict.exists_ok_iff, (verdict_meter _).exists_ok_iff]
    exact ⟨fun sound => ⟨sound.1, sound.2, sound.3⟩, fun sound => ⟨sound.1, sound.2, sound.3⟩⟩
  · intro before r after gamma black white listed kind
    have same : RecognizerSettings.Sound { r with gamma, black, white } ↔ r.Sound := by
      rw [r.sound_iff_of_needle kind]
      exact RecognizerSettings.sound_iff_of_needle { r with gamma, black, white } kind
    rw [verdict.exists_ok_iff, (verdict_meter _).exists_ok_iff, sound_iff_of_listed (by simp),
      sound_iff_of_listed (by simp [listed])]
    simp only [listed, List.forall_mem_append, List.forall_mem_cons, same]

end Settings

namespace Sample

/-- A region in a box. -/
def boxSettings : RegionSettings := ⟨some "id1", none, none, 2, false, some ⟨42, 10, 100, 65⟩⟩

def settingsOf (recognizers : List RecognizerSettings) (regions : List RegionSettings) : Settings :=
  ⟨some "m.bmp", 0.0, false, none, recognizers, regions⟩

/-- A black point above the white point that is left open is refused where characters are read, but
not for a needle. The older form of the settings makes the same meter. -/
theorem meter_accepted_iff_black :
    let plain := Settings.ownerless [boxSettings]
    let dark := { plain with black := some 130 }
    let needle := { dark with kind := .needle }
    (∃ m, (settingsOf [plain, needle] []).meter = .ok m ∧
      (settingsOf [plain, needle] []).Describes m) ∧
    (∃ cause, (settingsOf [plain, dark] []).meter.mapError MeterError.config =
      .error (.config cause) ∧ (settingsOf [plain, dark] []).Fault cause) ∧
    ∃ m, (settingsOf [] [boxSettings]).meter = .ok m ∧
      ((settingsOf [] [boxSettings]).listing []).meter = .ok m := by
  intro plain dark needle
  have file (recognizers regions) : ∃ file ∈ (settingsOf recognizers regions).file, file ≠ "" :=
    ⟨"m.bmp", rfl, by decide⟩
  have region : boxSettings.Sound := by
    refine ⟨⟨"id1", rfl, by decide⟩, ?_, ?_⟩ <;>
    · rintro _ ⟨⟩
      decide
  have regions : ∀ region ∈ [boxSettings], region.Sound := by simpa using region
  have plainSound : plain.Sound :=
    ⟨List.cons_ne_nil _ _, regions, fun _ => ⟨by decide +kernel, by decide⟩⟩
  have needleSound : needle.Sound :=
    ⟨List.cons_ne_nil _ _, regions, fun kind => by contradiction⟩
  refine ⟨?_, ?_, ?_⟩
  · obtain ⟨accepted, -, describes, -⟩ := (settingsOf [plain, needle] []).meter_accepted_iff
    obtain ⟨m, made⟩ := accepted.2 ⟨file _ _, .inl (List.cons_ne_nil _ _), by
      simpa [settingsOf, Settings.meantRecognizers] using ⟨plainSound, needleSound⟩⟩
    exact ⟨m, made, describes m made⟩
  · obtain ⟨accepted, refused, -⟩ := (settingsOf [plain, dark] []).meter_accepted_iff
    cases made : (settingsOf [plain, dark] []).meter with
    | ok m =>
      have sound := accepted.1 ⟨m, made⟩
      have curve := (sound.recognizers dark (by simp [settingsOf, Settings.meantRecognizers])).curve
      exact absurd (curve rfl).2 (by decide)
    | error cause =>
      obtain ⟨_, ⟨⟩, fault⟩ := refused (.config cause) (by rw [made]; rfl)
      exact ⟨cause, rfl, fault⟩
  · obtain ⟨accepted, -, -, -, -, -, older⟩ := (settingsOf [] [boxSettings]).meter_accepted_iff
    obtain ⟨m, made⟩ := accepted.2 ⟨file _ _, .inr (List.cons_ne_nil _ _), by
      simpa [settingsOf, Settings.meantRecognizers] using plainSound⟩
    exact ⟨m, made, (older rfl [] m).1 made⟩

end Sample

/-! ## Inverted boxes -/

/-- A side of a region shows a coordinate: it is open for one that is negative or larger than any
image, and otherwise lies there. -/
structure IsSide (v : Int) (side : Option Nat) : Prop where
  eq_none_iff : side = none ↔ v < 0 ∨ Region.maxCoordinate < v
  eq_of_mem : ∀ n ∈ side, (n : Int) = v

theorem isSide_openEnd (v : Int) : IsSide v (openEnd v) where
  eq_none_iff := by
    rw [openEnd_eq_none_iff, GivesEnd]
    omega
  eq_of_mem := fun _ mem => (openEnd_eq_some_iff.1 mem).2.symm

/-- Of coordinates in the wrong order, those are inverted of which none is too large. -/
theorem inverted_iff_of_lt {near far : Int} (zero : 0 ≤ far) (less : far < near) :
    Inverted near far ↔ near ≤ Region.maxCoordinate := by
  simp only [Inverted, GivesEnd]
  omega

theorem Settings.exists_error_of_region {s : Settings} {r : RecognizerSettings}
    {region : RegionSettings} (listed : r ∈ s.meantRecognizers) (mem : region ∈ r.regions)
    (unsound : ¬ region.Sound) : ∃ e, s.meter = .error e :=
  s.verdict_meter.exists_error_iff.2 fun sound =>
    unsound ((sound.recognizers r listed).regions region mem)

/-- A box is refused if and only if along some axis both coordinates give an end and the far one
lies before the near one, and so are a region with a name and such a box and all settings with them.
The order of a coordinate that is too large for any image does not matter, since its side is open
like that of a negative one. Any other coordinate is where the side comes to lie. -/
theorem box_refused_iff (r : Region) (x₁ y₁ x₂ y₂ : Int) :
    ((∃ e, r.withBox x₁ y₁ x₂ y₂ = .error e) ↔ Inverted x₁ x₂ ∨ Inverted y₁ y₂) ∧
      (∀ near far : Int, 0 ≤ far → far < near →
        (Inverted near far ↔ near ≤ Region.maxCoordinate)) ∧
      (∀ g, r.withBox x₁ y₁ x₂ y₂ = .ok g →
        (IsSide x₁ g.bounds.horizontal.low ∧ IsSide x₂ g.bounds.horizontal.high) ∧
          IsSide y₁ g.bounds.vertical.low ∧ IsSide y₂ g.bounds.vertical.high) ∧
      ∀ (region : RegionSettings) (box : BoxSettings), region.box = some box →
        (∃ identifier ∈ region.identifier, identifier ≠ "") →
        let inverted := Inverted box.x1.toInt box.x2.toInt ∨ Inverted box.y1.toInt box.y2.toInt
        ((∃ e, region.region = .error e) ↔ inverted) ∧
          (inverted → ∀ (s : Settings) (k : RecognizerSettings), k ∈ s.meantRecognizers →
            region ∈ k.regions → ∃ e, s.meter = .error e) := by
  have verdict := r.verdict_withBox x₁ y₁ x₂ y₂
  refine ⟨?_, fun near far => inverted_iff_of_lt, fun g made => ?_, ?_⟩
  · rw [verdict.exists_error_iff, not_and_or, not_not, not_not]
  · rw [(verdict.describes_of_ok made).bounds]
    exact ⟨⟨isSide_openEnd x₁, isSide_openEnd x₂⟩, isSide_openEnd y₁, isSide_openEnd y₂⟩
  · intro region box boxed name inverted
    have unsound : ¬ region.Sound ↔ inverted := by
      rw [not_iff_comm, not_or]
      constructor
      · rintro ⟨horizontal, vertical⟩
        exact ⟨name, by simpa [boxed] using horizontal, by simpa [boxed] using vertical⟩
      · intro sound
        exact ⟨sound.horizontal box boxed, sound.vertical box boxed⟩
    refine ⟨region.verdict_region.exists_error_iff.trans unsound, ?_⟩
    intro wrong s k listed mem
    exact Settings.exists_error_of_region listed mem (unsound.2 wrong)

/-- A far side before a near one that is too large for any image is not refused: the near side is
open. In front of the largest coordinate it is. -/
theorem box_refused_iff_at_largest :
    (0 ≤ (5 : Int) ∧ (5 : Int) < 4294967296) ∧
      (∃ g, Sample.region.withBox 4294967296 (-1) 5 (-1) = .ok g ∧
        g.bounds.horizontal.low = none ∧ g.bounds.horizontal.high = some 5) ∧
      ∃ e, Sample.region.withBox 4294967295 (-1) 5 (-1) = .error e := by
  obtain ⟨wide, -, sides, -⟩ := box_refused_iff Sample.region 4294967296 (-1) 5 (-1)
  obtain ⟨largest, -⟩ := box_refused_iff Sample.region 4294967295 (-1) 5 (-1)
  refine ⟨by decide, ?_, largest.2 (by decide)⟩
  cases made : Sample.region.withBox 4294967296 (-1) 5 (-1) with
  | error e => exact absurd (wide.1 ⟨e, made⟩) (by decide)
  | ok g =>
    obtain ⟨⟨near, far⟩, -⟩ := sides g made
    refine ⟨g, rfl, near.eq_none_iff.2 (by decide), ?_⟩
    cases side : g.bounds.horizontal.high with
    | none => exact absurd (far.eq_none_iff.1 side) (by decide)
    | some n =>
      have at5 := far.eq_of_mem n side
      simpa using Int.natCast_inj.1 at5

end MeterSight
