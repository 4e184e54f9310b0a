import MeterSight.Proofs.CycleSoundness
import MeterSight.Proofs.DigitBlocks
import MeterSight.Proofs.WholeDouble

/-!
# Composition of numbers

Regions that share an identifier make up one number. If a row of digits is cut into blocks, each
shown by a region that counts by the digits to its right, the value is the number that the whole row
denotes, whatever the cut and in whichever order and recognizers the regions are. In exact
arithmetic that holds for rows of any length, in doubles for up to 15 digits.
-/
namespace MeterSight
open Text Decimal

/-! ## Amounts that count exactly -/

/-- An amount without rounding, if it can be read. -/
structure ExactAmount where
  value? : Option ℚ

namespace ExactAmount

instance : Amount ExactAmount where
  zero := ⟨some 0⟩
  add a b := ⟨Option.map₂ (· + ·) a.value? b.value?⟩
  mul a b := ⟨Option.map₂ (· * ·) a.value? b.value?⟩
  ofNumeral n := ⟨some ((if n.negative then -1 else 1) * n.mantissa * 10 ^ n.exponent)⟩
  tenTo n := ⟨some (10 ^ n)⟩
  ofConfidence x := ⟨exactValue? x⟩
  unreadable := ⟨none⟩
  isUnreadable a := a.value?.isNone

/-- A whole number. -/
def whole (n : Nat) : ExactAmount := ⟨some n⟩

end ExactAmount

/-- Whole numbers with up to so many digits are read, scaled and added without loss. -/
structure CountsExactly {α : Type} [Amount α] (whole : Nat → α) (digits : Nat) : Prop where
  zero_eq : Amount.zero = whole 0
  ofNumeral_eq {n : Nat} : n < 10 ^ digits → Amount.ofNumeral ⟨false, n, 0⟩ = whole n
  mul_tenTo {n k : Nat} : k ≤ digits → n * 10 ^ k < 10 ^ digits →
    Amount.mul (whole n) (Amount.tenTo k) = whole (n * 10 ^ k)
  add_eq {m n : Nat} : m + n < 10 ^ digits → Amount.add (whole m) (whole n) = whole (m + n)

theorem countsExactly_exactAmount (digits : Nat) : CountsExactly ExactAmount.whole digits where
  zero_eq := by simp [Amount.zero, ExactAmount.whole]
  ofNumeral_eq _ := by simp [Amount.ofNumeral, ExactAmount.whole]
  mul_tenTo _ _ := by simp [Amount.mul, Amount.tenTo, ExactAmount.whole]
  add_eq _ := by simp [Amount.add, ExactAmount.whole]

theorem countsExactly_float : CountsExactly Float.ofNat 15 where
  zero_eq := rfl
  ofNumeral_eq small := toFloat_whole (by omega)
  mul_tenTo {n k} le small := by
    have power : 10 ^ k ≤ 10 ^ 15 := Nat.pow_le_pow_right (by decide) le
    have factor : n ≤ n * 10 ^ k := Nat.le_mul_of_pos_right n (by positivity)
    show Float.ofNat n * tenToFloat k = _
    rw [tenToFloat_whole le, ofNat_mul (by omega) (by omega) (by omega)]
  add_eq small := ofNat_add (by omega)

/-! ## Regions that show blocks -/

/-- The word is the block of a place, perhaps with the letter m behind it, and the region counts by
the digits to the right. -/
def Observation.Reads (o : Observation) (p : Place) : Prop :=
  o.region.scaler = p.right ∧ ∃ unit ∈ [[], ['m']],
    o.word.map (·.text.toList) = some (p.block ++ unit)

/-- The engine was asked about the region, and the first word in its answer with enough confidence
is the block of a place, perhaps with the letter m behind it. The region counts by the digits to the
right. -/
def Search.Reads (s : Search) (p : Place) : Prop :=
  s.region.scaler = p.right ∧ ∃ before word after, ∃ unit ∈ [[], ['m']],
    s.answer = some (.ok (before ++ word :: after)) ∧ 15.0 < word.confidence ∧
      (∀ w ∈ before, ¬ 15.0 < w.confidence) ∧ word.text.toList = p.block ++ unit

theorem Search.Reads.observation {s : Search} {p : Place} (h : s.Reads p) :
    s.glimpse.observation.Reads p := by
  obtain ⟨scaler, before, word, after, unit, known, answered, above, below, text⟩ := h
  have accepted : acceptedWord s.words = some word := by
    rw [Search.words, answered]
    exact acceptedWord_eq_some_iff.2 ⟨above, before, after, rfl, below⟩
  refine ⟨scaler, unit, known, ?_⟩
  rw [Search.glimpse, Glimpse.observation, accepted, Option.map_some, text]

namespace Session
variable {photo : RgbaImage} {offset : Offset} {identifier : String}

/-- If the engine took the image or no region with an identifier is concerned, the regions with it
were searched, and what was seen of it is what was found in these searches. -/
theorem searches_eq_of_searched {s : Session} (orderly : s.Orderly photo offset)
    (shown : (∃ region ∈ s.recognizer.regions, region.identifier = identifier) →
      ∃ searches, s.course = .searched searches) :
    (s.searches.filter (·.region.identifier = identifier)).map Search.region =
        s.recognizer.regions.filter (·.identifier = identifier) ∧
      s.observations.filter (·.region.identifier = identifier) =
        (s.searches.filter (·.region.identifier = identifier)).map
          fun search => search.glimpse.observation := by
  rcases s with ⟨r, cause | cause | searches⟩
  · have unnamed : r.regions.filter (·.identifier = identifier) = [] := by simpa using shown
    simp [searches, observations, unnamed]
  · have unnamed : r.regions.filter (·.identifier = identifier) = [] := by simpa using shown
    simp [searches, observations, List.filter_map, Function.comp_def, unnamed]
  · have all : searches.map Search.region = r.regions := Search.map_region_of_forall₂ orderly
    constructor
    · rw [← all, List.filter_map]
      rfl
    · exact List.filter_map

theorem searchesOf_eq_of_searched {sessions : List Session}
    (orderly : ∀ s ∈ sessions, s.Orderly photo offset)
    (shown : ∀ s ∈ sessions, (∃ region ∈ s.recognizer.regions, region.identifier = identifier) →
      ∃ searches, s.course = .searched searches) :
    (searchesOf identifier sessions).map Search.region =
        regionsOf identifier (sessions.map recognizer) ∧
      observationsOf identifier (sessions.flatMap observations) =
        (searchesOf identifier sessions).map fun search => search.glimpse.observation := by
  induction sessions with
  | nil => exact ⟨rfl, rfl⟩
  | cons s more ih =>
    obtain ⟨first, rest⟩ := List.forall_mem_cons.1 shown
    obtain ⟨own, others⟩ := List.forall_mem_cons.1 orderly
    obtain ⟨regions, seen⟩ := searches_eq_of_searched own first
    obtain ⟨regions', seen'⟩ := ih others rest
    unfold searchesOf regionsOf observationsOf at *
    simp only [List.map_cons, List.flatMap_cons, List.filter_append, List.map_append, regions,
      regions', seen, seen', and_self]

end Session

/-- A place of a row of digits that is not too long. -/
structure Place.Fits (p : Place) (digits : Nat) : Prop where
  ne : p.block ≠ []
  ascii : ∀ c ∈ p.block, isAsciiDigit c = true
  length_le : p.block.length + p.right ≤ digits

section places
variable {α : Type} [Amount α] {whole : Nat → α} {digits : Nat}

theorem Place.Fits.worth_lt {p : Place} (fits : p.Fits digits) : p.worth < 10 ^ digits := by
  have block := naturalOf_lt fits.ascii
  calc p.worth < 10 ^ p.block.length * 10 ^ p.right :=
        Nat.mul_lt_mul_of_pos_right block (by positivity)
    _ = 10 ^ (p.block.length + p.right) := (Nat.pow_add ..).symm
    _ ≤ 10 ^ digits := Nat.pow_le_pow_right (by decide) fits.length_le

/-- A region that reads a block adds its worth. -/
theorem Observation.change_of_reads (exact : CountsExactly whole digits) {o : Observation}
    {p : Place} (reads : o.Reads p) (fits : p.Fits digits) :
    ∃ confidence, o.change = .add o.region (whole p.worth) confidence := by
  obtain ⟨scaler, unit, known, shown⟩ := reads
  obtain ⟨word, seen, text⟩ := Option.map_eq_some_iff.1 shown
  have number : leadingNumber word.text.toList = ⟨false, naturalOf p.block, 0⟩ := by
    rw [text]
    exact leadingNumber_block fits.ne fits.ascii (by simpa using known)
  have below := fits.worth_lt
  have factor : naturalOf p.block ≤ p.worth := Nat.le_mul_of_pos_right _ (by positivity)
  have amount : Readings.valueOf o.region word = whole p.worth := by
    have right : p.right ≤ digits := Nat.le_trans (Nat.le_add_left ..) fits.length_le
    rw [Readings.valueOf, number, scaler, exact.ofNumeral_eq (by omega),
      exact.mul_tenTo right below, Place.worth]
  exact ⟨word.confidence, by rw [Observation.change, seen, ← amount]⟩

/-- Regions that read blocks add up what these are worth. -/
theorem value_foldl_change_of_reads (exact : CountsExactly whole digits)
    {own : List Observation} {order : List Place} (reads : List.Forall₂ Observation.Reads own order)
    (fits : ∀ p ∈ order, p.Fits digits) {t : Tally α} {n : Nat} (start : t.value = whole n)
    (room : n + (order.map Place.worth).sum < 10 ^ digits) :
    ((own.map Observation.change).foldl Tally.change t).value =
      whole (n + (order.map Place.worth).sum) := by
  -- The whole sum bounds every partial one, so no addition leaves the range that counts exactly.
  induction reads generalizing t n with
  | nil => exact start
  | @cons o p own order first _ ih =>
    obtain ⟨fit, rest⟩ := List.forall_mem_cons.1 fits
    obtain ⟨confidence, change⟩ := Observation.change_of_reads exact first fit
    have sum : n + ((p :: order).map Place.worth).sum =
        n + p.worth + (order.map Place.worth).sum := by
      rw [List.map_cons, List.sum_cons, Nat.add_assoc]
    rw [sum] at room ⊢
    rw [List.map_cons, List.foldl_cons, change]
    refine ih rest ?_ room
    show Amount.add t.value (whole p.worth) = _
    rw [start, exact.add_eq (by omega)]

theorem fits_of_mem_places {blocks : List (List Char)}
    (ascii : ∀ block ∈ blocks, block ≠ [] ∧ ∀ c ∈ block, isAsciiDigit c = true)
    (short : blocks.flatten.length ≤ digits) {p : Place} (mem : p ∈ places blocks) :
    p.Fits digits where
  ne := (ascii _ (block_mem_of_mem_places mem)).1
  ascii := (ascii _ (block_mem_of_mem_places mem)).2
  length_le := Nat.le_trans (length_add_right_le mem) short

/-- The tally of an identifier whose regions read the blocks of a row of digits, in any order. -/
theorem Readings.get?_noteAll_of_places (exact : CountsExactly whole digits)
    {blocks : List (List Char)} (ne : blocks ≠ [])
    (ascii : ∀ block ∈ blocks, block ≠ [] ∧ ∀ c ∈ block, isAsciiDigit c = true)
    (short : blocks.flatten.length ≤ digits) {order : List Place}
    (same : order.Perm (places blocks)) {observations : List Observation} {identifier : String}
    (reads : List.Forall₂ Observation.Reads (observationsOf identifier observations) order) :
    ∃ t, ((empty : Readings α).noteAll observations).get? identifier = some t ∧
      t.value = whole (naturalOf blocks.flatten) := by
  have sum : (order.map Place.worth).sum = naturalOf blocks.flatten := by
    rw [(same.map Place.worth).sum_eq, sum_worth_places]
  have room : naturalOf blocks.flatten < 10 ^ digits :=
    Nat.lt_of_lt_of_le (naturalOf_flatten_lt fun block mem => (ascii block mem).2)
      (Nat.pow_le_pow_right (by decide) short)
  have some : observationsOf identifier observations ≠ [] := by
    rw [← List.length_pos_iff, reads.length_eq, same.length_eq, List.length_pos_iff]
    cases blocks with
    | nil => contradiction
    | cons => simp [places]
  have value := value_foldl_change_of_reads exact reads
    (fun p mem => fits_of_mem_places ascii short (same.mem_iff.1 mem)) (t := Tally.empty) (n := 0)
    exact.zero_eq (by omega)
  rw [Nat.zero_add, sum] at value
  exact ⟨_, get?_noteAll some, value⟩

end places

namespace Meter
variable {σ : Type}

/-- Reading a photo gives an identifier the number that some digits denote: in exact arithmetic in
any case, in doubles for up to 15 digits. -/
structure Accumulates (b : Backend σ) (photo : RgbaImage) (offset : Offset)
    (recognizers : List TextRecognizer) (identifier : String) (digits : List Char) (s t : σ) :
    Prop where
  exactly : ∃ (all : Readings ExactAmount) (tally : Tally ExactAmount),
    readAllInto b photo offset recognizers .empty s = (.ok all, t) ∧
    all.get? identifier = some tally ∧
    tally.value = ⟨some (naturalOf digits)⟩
  in_doubles : digits.length ≤ 15 → ∃ (all : Readings Float) (tally : Tally Float),
    readAllInto b photo offset recognizers .empty s = (.ok all, t) ∧
    all.get? identifier = some tally ∧
    exactValue? tally.value = some (naturalOf digits : ℚ)

variable {blocks : List (List Char)} {order : List Place} {b : Backend σ} {photo : RgbaImage}
  {offset : Offset} {recognizers : List Recognizer} {identifier : String} {s t : σ}
  {sessions : List Session}

theorem accumulates_of_reads (ne : blocks ≠ [])
    (ascii : ∀ block ∈ blocks, block ≠ [] ∧ ∀ c ∈ block, isAsciiDigit c = true)
    (same : order.Perm (places blocks))
    (run : sightAll b photo offset recognizers none s =
      (Session.conclude photo offset none sessions, t))
    (open' : sessions.findSome? Session.halt? = none)
    (reads : List.Forall₂ Observation.Reads
      (observationsOf identifier (sessions.flatMap Session.observations)) order) :
    Accumulates b photo offset (recognizers.filterMap Recognizer.text?) identifier blocks.flatten
      s t := by
  have kept {α : Type} [Amount α] :
      readAllInto (α := α) b photo offset (recognizers.filterMap Recognizer.text?) .empty s =
        (.ok (Readings.empty.noteAll (sessions.flatMap Session.observations)), t) := by
    rw [readAllInto_eq, run, Session.conclude, open']
    rfl
  constructor
  · obtain ⟨tally, noted, value⟩ :=
      Readings.get?_noteAll_of_places (countsExactly_exactAmount _) ne ascii (Nat.le_refl _) same
        reads
    exact ⟨_, tally, kept, noted, value⟩
  · intro short
    obtain ⟨tally, noted, value⟩ :=
      Readings.get?_noteAll_of_places countsExactly_float ne ascii short same reads
    refine ⟨_, tally, kept, noted, ?_⟩
    have below : naturalOf blocks.flatten < 10 ^ 15 :=
      Nat.lt_of_lt_of_le (naturalOf_flatten_lt fun block mem => (ascii block mem).2)
        (Nat.pow_le_pow_right (by decide) short)
    rw [value, exactValue?_ofNat (by omega)]

/-- If the regions with an identifier, in whichever recognizers and order, show the blocks of a row
of digits in their places, the value that is accumulated for it is the number that the row denotes.
That they do can be told by what was seen, and just as well by what engines answered about them. -/
theorem value_of_places (ne : blocks ≠ [])
    (ascii : ∀ block ∈ blocks, block ≠ [] ∧ ∀ c ∈ block, isAsciiDigit c = true)
    (same : order.Perm (places blocks)) (b : Backend σ) (photo : RgbaImage) (offset : Offset)
    (recognizers : List Recognizer) (held : Option (List Frame)) (s : σ) (identifier : String) :
    let texts := recognizers.filterMap Recognizer.text?
    (∀ seen t, sightAll b photo offset recognizers held s = (.ok seen, t) →
      List.Forall₂ Observation.Reads (observationsOf identifier seen.observations) order →
        Accumulates b photo offset texts identifier blocks.flatten s t) ∧
    ∀ sessions t, Tour photo offset texts sessions →
      (sightAll b.traced photo offset recognizers held (s, [])).2 =
        (t, sessions.flatMap (Session.events photo offset)) →
      (∀ settings cause, .create settings (.error cause) ∈
        sessions.flatMap (Session.events photo offset) → cause.isFatal = false) →
      (∀ session ∈ sessions,
        (∃ region ∈ session.recognizer.regions, region.identifier = identifier) →
          ∃ searches, session.course = .searched searches) →
      (searchesOf identifier sessions).map Search.region = regionsOf identifier texts ∧
        (List.Forall₂ Search.Reads (searchesOf identifier sessions) order →
          Accumulates b photo offset texts identifier blocks.flatten s t) := by
  intro texts
  obtain ⟨toured, u, tour, run⟩ := sightAll_traced b photo offset recognizers s []
  constructor
  · intro seen t ran reads
    rw [(run held).1] at ran
    obtain ⟨told, rfl⟩ := Prod.mk.inj ran
    cases open' : toured.findSome? Session.halt? with
    | some cause => simp [Session.conclude, open'] at told
    | none =>
      simp only [Session.conclude, open', Except.ok.injEq] at told
      obtain rfl := told
      exact accumulates_of_reads ne ascii same (run none).1 open' reads
  · intro sessions t tour' ran soft shown
    rw [(run held).2] at ran
    obtain ⟨rfl, asked⟩ := Prod.mk.inj ran
    obtain rfl := tour.eq_of_events_eq tour' asked
    have open' := Session.findSome?_halt?_eq_none soft
    obtain ⟨regions, seen⟩ := Session.searchesOf_eq_of_searched tour.orderly shown
    refine ⟨by rw [regions, tour.map_recognizer open'], fun reads => ?_⟩
    refine accumulates_of_reads ne ascii same (run none).1 open' ?_
    rw [seen, List.forall₂_map_left_iff]
    exact reads.imp fun _ _ => Search.Reads.observation

end Meter

namespace Sample

/-- An engine that finds the words of a script, one entry for each question. -/
def script : Backend (List (List Word)) where
  create _ := return .ok ()
  setImage _ := return .ok ()
  setRectangle _ := return
  recognize := fun rest => (.ok (rest.headD []), rest.tail)
  release := return

/-- The right one of two blocks, counting by a power of ten. -/
def scaled (n : Int) : Region := { region with scaler := n }

theorem not_isEmpty_place_scaled (n : Int) :
    ¬ ((recognizer (scaled n) "eng").place photo .zero (scaled n)).IsEmpty := by
  have same : (recognizer (scaled n) "eng").place photo .zero (scaled n) =
      (recognizer region "eng").place photo .zero region := rfl
  rw [same]
  decide +kernel

/-- The number 432 is cut behind its first digit, and the last two are read first. A word in front
of the first digit has too little confidence to count. -/
theorem value_of_places_split :
    let word (text : String) (confidence : Float) : Word := ⟨text, confidence, ⟨0, 0, 1, 1⟩⟩
    let words := [[word "32m" 90.0], [word "1" 15.0, word "4" 80.0]]
    let texts := [recognizer (scaled 0) "eng", recognizer (scaled 2) "eng"]
    ∃ (all : Readings Float) (tally : Tally Float),
      Meter.readAllInto script photo .zero texts .empty words = (.ok all, []) ∧
      all.get? "id1" = some tally ∧ exactValue? tally.value = some 432 := by
  intro word words texts
  let lay (n : Int) (answer : List Word) : Search :=
    ⟨scaled n, (recognizer (scaled n) "eng").place photo .zero (scaled n), some (.ok answer)⟩
  let sessions : List Session :=
    [⟨recognizer (scaled 0) "eng", .searched [lay 0 [word "32m" 90.0]]⟩,
      ⟨recognizer (scaled 2) "eng", .searched [lay 2 [word "1" 15.0, word "4" 80.0]]⟩]
  have orderly (n : Int) (answer : List Word) :
      Session.Orderly photo .zero ⟨recognizer (scaled n) "eng", .searched [lay n answer]⟩ :=
    List.Forall₂.cons ⟨rfl, rfl, by simpa [lay] using not_isEmpty_place_scaled n⟩ .nil
  have tour : Tour photo .zero texts sessions :=
    .on (orderly ..) rfl (.on (orderly ..) rfl .done)
  have regions (n : Int) : (recognizer (scaled n) "eng").regions = [scaled n] := rfl
  have ran : (Meter.sightAll script.traced photo .zero (texts.map Recognizer.text) none
      (words, [])).2 = ([], sessions.flatMap (Session.events photo .zero)) := by
    simp [texts, words, sessions, lay, Meter.sightAll, Recognizer.sight, TextRecognizer.sight,
      TextRecognizer.search_eq, TextRecognizer.lookAll, TextRecognizer.look, stateM_bind_apply,
      stateM_map_apply, stateM_pure_apply, Backend.traced, script, regions,
      not_isEmpty_place_scaled, Session.events, Search.events]
  have soft : ∀ settings cause, .create settings (.error cause) ∈
      sessions.flatMap (Session.events photo .zero) → cause.isFatal = false := by
    simp [sessions, lay, Session.events, Search.events]
  have sought : searchesOf "id1" sessions =
      [lay 0 [word "32m" 90.0], lay 2 [word "1" 15.0, word "4" 80.0]] := rfl
  have reads : List.Forall₂ Search.Reads (searchesOf "id1" sessions)
      [⟨['3', '2'], 0⟩, ⟨['4'], 2⟩] := by
    refine sought ▸ .cons ⟨rfl, [], word "32m" 90.0, [], ['m'], ?_⟩
      (.cons ⟨rfl, [word "1" 15.0], word "4" 80.0, [], [], ?_⟩ .nil)
    · exact ⟨by simp, rfl, by decide +kernel, by simp, by decide⟩
    · exact ⟨by simp, rfl, by decide +kernel, by decide +kernel, by decide⟩
  have ascii : ∀ block ∈ [['4'], ['3', '2']], block ≠ [] ∧ ∀ c ∈ block, isAsciiDigit c = true := by
    simp [isAsciiDigit]
  obtain ⟨-, answered⟩ := Meter.value_of_places (by simp) ascii (List.Perm.swap ..) script photo
    .zero (texts.map Recognizer.text) none words "id1"
  obtain ⟨-, told⟩ := answered sessions [] tour ran soft (by simp [sessions])
  exact (told reads).in_doubles (by decide)

end Sample
end MeterSight
