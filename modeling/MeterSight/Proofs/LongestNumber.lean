import MeterSight.Proofs.NumberForm
import MeterSight.Proofs.NumeralRounding

/-!
# The longest number

The scan of a text takes the longest start that is a number in digits of any script, the reading
accepts the numbers in ASCII digits. What it accepts becomes the nearest double.
-/
namespace MeterSight
open Text Decimal

/-! ## The longest number that a text begins with -/

/-- Of the starts of a text with a property, the longest one. -/
structure IsLongestStart (p : List Char → Prop) (text start : List Char) : Prop where
  begins : start <+: text
  holds : p start
  longest : ∀ other, other <+: text → p other → other.length ≤ start.length

namespace IsLongestStart
variable {p q : List Char → Prop} {text start start' : List Char}

theorem unique (h : IsLongestStart p text start) (h' : IsLongestStart p text start') :
    start = start' := by
  have le := h.longest _ h'.begins h'.holds
  have ge := h'.longest _ h.begins h.holds
  rw [List.prefix_iff_eq_take.1 h.begins, List.prefix_iff_eq_take.1 h'.begins,
    Nat.le_antisymm ge le]

/-- Where the longest start has a stronger property too, it is the longest start with that. -/
theorem strengthen (h : IsLongestStart p text start) (imp : ∀ other, q other → p other)
    (holds : q start) : IsLongestStart q text start :=
  ⟨h.begins, holds, fun other begins holds => h.longest other begins (imp other holds)⟩

end IsLongestStart

theorem exists_isLongestStart {p : List Char → Prop} {text start : List Char}
    (begins : start <+: text) (holds : p start) : ∃ start, IsLongestStart p text start := by
  classical
  let Holds (k : Nat) : Prop := p (text.take k)
  have reached {other : List Char} (begins : other <+: text) (holds : p other) :
      Holds other.length := by
    simpa only [Holds, ← List.prefix_iff_eq_take.1 begins] using holds
  have found : Holds (Nat.findGreatest Holds text.length) :=
    Nat.findGreatest_spec begins.length_le (reached begins holds)
  refine ⟨_, List.take_prefix _ _, found, fun other begins holds => ?_⟩
  rw [List.length_take]
  exact Nat.le_min.2
    ⟨Nat.le_findGreatest begins.length_le (reached begins holds), begins.length_le⟩

/-- A number ends where a character follows that is in no number. -/
theorem isLongestStart_of_stop {digit : Char → Bool} {start rest : List Char}
    (number : IsNumber digit start)
    (stop : ∀ c ∈ rest.head?, digit c = false ∧ c ∉ numberMarks) :
    IsLongestStart (IsNumber digit) (start ++ rest) start := by
  refine ⟨List.prefix_append _ _, number, fun other begins longerNumber => ?_⟩
  by_contra longer
  cases rest with
  | nil => exact longer (by simpa using begins.length_le)
  | cons c more =>
    obtain ⟨noDigit, noMark⟩ := stop c rfl
    have within : start ++ [c] <+: other :=
      List.prefix_of_prefix_length_le ⟨more, by simp⟩ begins (by simpa using longer)
    have mem : c ∈ other := within.subset (by simp)
    rcases longerNumber.digit_or_mem_numberMarks mem with own | mark
    · exact absurd own (by simp [noDigit])
    · exact noMark mark

namespace LeadingNumber
open MantissaForm

theorem text?_of_scan {text body more : List Char} {sign : SignForm} {m : MantissaForm}
    (signed : SignForm.scan text = (sign, body)) (scanned : scan isDigit body = (m, more)) :
    text? text =
      if m.digits = [] then none else some (sign.text ++ (m.text ++ exponentText more)) := by
  have split := splitSign_of_scan signed
  have mantissa := splitMantissa_of_scan scanned
  by_cases empty : m.digits = []
  · rw [if_pos empty] at mantissa
    simp [text?, split, mantissa, empty]
  · rw [if_neg empty] at mantissa
    simp [text?, split, mantissa, empty, text_ne_nil empty]

/-- What the scan finds is a number that the text begins with. -/
theorem isNumber_of_text? {text found : List Char} (eq : text? text = some found) :
    IsNumber isDigit found ∧ found <+: text := by
  obtain ⟨sign, body, signed, rfl⟩ := SignForm.exists_scan text
  obtain ⟨m, more, scanned, rfl, digits⟩ := MantissaForm.exists_scan isDigit body
  obtain ⟨exponent, valid, exponentEq, inside⟩ := exists_exponentText more
  rw [text?_of_scan signed scanned] at eq
  split at eq
  · exact nomatch eq
  · next some =>
    obtain rfl := Option.some.inj eq
    constructor
    · refine ⟨⟨sign, m, exponent⟩, ⟨⟨digits, some⟩, valid⟩, ?_⟩
      rw [exponentEq]
      rfl
    · exact (List.prefix_append_right_inj _).2 ((List.prefix_append_right_inj _).2 inside)

/-- A number that the text begins with is found, or a longer one. -/
theorem exists_text? {n : NumberForm} (valid : n.Valid isDigit) (rest : List Char) :
    ∃ found, text? (n.text ++ rest) = some found ∧ n.text <+: found := by
  have cls := isDigitClass_isDigit
  have digits := valid.mantissa.digits
  have signed : SignForm.scan (n.text ++ rest) =
      (n.sign, n.mantissa.text ++ (n.exponentText ++ rest)) := by
    simpa [NumberForm.text] using
      SignForm.scan_append n.sign (unsigned_text cls valid.mantissa (n.exponentText ++ rest))
  obtain ⟨m, more, scanned, some, longer⟩ : ∃ m more,
      scan isDigit (n.mantissa.text ++ (n.exponentText ++ rest)) = (m, more) ∧ m.digits ≠ [] ∧
        n.mantissa.text ++ n.exponentText <+: m.text ++ exponentText more := by
    -- An exponent ends the digits in front of it. Without one, what follows may be more digits.
    cases form : n.exponent with
    | none =>
      have noText : n.exponentText = [] := by rw [NumberForm.exponentText, form]; rfl
      have longer := text_prefix_scan cls digits rest
      obtain ⟨c, own⟩ := List.exists_mem_of_ne_nil _ valid.mantissa.ne_nil
      rw [noText, List.nil_append, List.append_nil]
      refine ⟨_, _, Prod.mk.eta.symm, ?_, longer.trans (List.prefix_append _ _)⟩
      rcases mem_text (longer.subset (mem_text_of_mem_digits own)) with own' | rfl
      · exact List.ne_nil_of_mem own'
      · exact absurd (digits _ own) (by simp [cls '.' (by decide)])
    | some e =>
      have eText : n.exponentText = e.text := by rw [NumberForm.exponentText, form]; rfl
      rw [eText]
      refine ⟨_, _, scan_append cls digits (cls.stop_exponent e rest), valid.mantissa.ne_nil, ?_⟩
      rw [List.prefix_append_right_inj]
      exact text_prefix_exponentText (valid.exponent e form) rest
  refine ⟨_, (text?_of_scan signed scanned).trans (if_neg some), ?_⟩
  rwa [NumberForm.text, List.prefix_append_right_inj]

/-- The parts are taken greedily, and that gives the longest number. -/
theorem text?_eq_some_iff {text found : List Char} :
    text? text = some found ↔ IsLongestStart (IsNumber isDigit) text found := by
  have longest {found : List Char} (eq : text? text = some found) :
      IsLongestStart (IsNumber isDigit) text found := by
    obtain ⟨number, begins⟩ := isNumber_of_text? eq
    refine ⟨begins, number, ?_⟩
    rintro _ ⟨rest, rfl⟩ ⟨n, valid, rfl⟩
    obtain ⟨found', eq', le⟩ := exists_text? valid rest
    rw [Option.some.inj (eq.symm.trans eq')]
    exact le.length_le
  refine ⟨longest, fun h => ?_⟩
  obtain ⟨n, valid, rfl⟩ := h.holds
  obtain ⟨rest, rfl⟩ := h.begins
  obtain ⟨found', eq, -⟩ := exists_text? valid rest
  rw [eq, h.unique (longest eq)]

theorem text?_eq_none_iff {text : List Char} :
    text? text = none ↔ ∀ start, start <+: text → ¬ IsNumber isDigit start := by
  constructor
  · rintro eq _ ⟨rest, rfl⟩ ⟨n, valid, rfl⟩
    obtain ⟨found, some, -⟩ := exists_text? valid rest
    exact absurd (eq.symm.trans some) nofun
  · intro noNumber
    cases eq : text? text with
    | none => rfl
    | some found =>
      obtain ⟨number, begins⟩ := isNumber_of_text? eq
      exact absurd number (noNumber found begins)

end LeadingNumber

/-! ## What a number denotes -/

def MantissaForm.value (m : MantissaForm) : ℚ :=
  naturalOf m.whole + naturalOf (m.fraction.getD []) / 10 ^ (m.fraction.getD []).length

def NumberForm.value (n : NumberForm) : ℚ :=
  (if n.sign.negative then -1 else 1) *
    (n.mantissa.value * 10 ^ n.exponent.elim 0 ExponentForm.value)

theorem NumberForm.toRat_numeral (n : NumberForm) : n.numeral.toRat = n.value := by
  have place : (10 : ℚ) ^ (n.mantissa.fraction.getD []).length ≠ 0 := by positivity
  simp only [Numeral.toRat, numeral, value, MantissaForm.value, MantissaForm.digits,
    naturalOf_append, zpow_sub₀ (by norm_num : (10 : ℚ) ≠ 0), zpow_natCast]
  push_cast
  field_simp

namespace Decimal
open MantissaForm

theorem unsignedNumeral?_eq_some_iff {sign : SignForm} {text : List Char} {v : Numeral} :
    unsignedNumeral? sign.negative text = some v ↔
      ∃ n : NumberForm, n.Valid isAsciiDigit ∧ n.sign = sign ∧
        n.mantissa.text ++ n.exponentText = text ∧ n.numeral = v := by
  constructor
  · obtain ⟨m, more, scanned, parts, digits⟩ := exists_scan isAsciiDigit text
    rw [unsignedNumeral?_of_scan sign.negative scanned]
    split
    · exact nofun
    · next some =>
      intro eq
      obtain ⟨value, read, rfl⟩ := Option.map_eq_some_iff.1 eq
      obtain ⟨exponent, valid, rfl, rfl⟩ := exponentOf?_eq_some_iff.1 read
      exact ⟨⟨sign, m, exponent⟩, ⟨⟨digits, some⟩, valid⟩, rfl, parts, rfl⟩
  · rintro ⟨n, valid, rfl, rfl, rfl⟩
    have cls := isDigitClass_isAsciiDigit
    have stop : ∀ c ∈ n.exponentText.head?, isAsciiDigit c = false ∧ c ≠ '.' := by
      unfold NumberForm.exponentText
      rcases n.exponent with _ | e
      · simp
      · simpa using cls.stop_exponent e []
    have read := exponentOf?_eq_some_iff.2 ⟨n.exponent, valid.exponent, rfl, rfl⟩
    rw [unsignedNumeral?_of_scan _ (scan_append cls valid.mantissa.digits stop),
      if_neg valid.mantissa.ne_nil, NumberForm.exponentText, read]
    rfl

/-- No letter in upper case is a digit. -/
theorem lower_of_isDigit {c : Char} (h : isDigit c = true) : lower c = c := by
  have apart : ∀ z ∈ zeroDigits, z + 10 ≤ 65 ∨ 90 < z := by decide
  obtain ⟨z, known, range⟩ := List.any_eq_true.1 h
  simp only [Bool.and_eq_true, decide_eq_true_eq] at range
  refine if_neg fun letter => ?_
  simp only [Bool.and_eq_true, decide_eq_true_eq] at letter
  have above : 65 ≤ c.toNat := letter.1
  have below : c.toNat ≤ 90 := letter.2
  have := apart z known
  omega

/-- No name begins with a digit or a point. -/
theorem lower_text_ne {m : MantissaForm} (digits : IsDigitRow isDigit m.digits) (rest : List Char)
    {d : Char} (letter : isDigit d = false ∧ d ≠ '.') (name : List Char) :
    (m.text ++ rest).map lower ≠ d :: name := by
  intro eq
  obtain ⟨c, more, text, first⟩ := exists_text_eq_cons digits.ne_nil
  rw [text, List.cons_append, List.map_cons] at eq
  have same := (List.cons.inj eq).1
  rcases first with own | rfl
  · have own := digits.digits c own
    rw [lower_of_isDigit own] at same
    simp [← same, own] at letter
  · exact letter.2 same.symm

theorem RealText.read?_text {n : NumberForm} (valid : n.Valid isDigit) :
    RealText.read? n.text =
      (unsignedNumeral? n.sign.negative (n.mantissa.text ++ n.exponentText)).map .finite := by
  have body := readSign_of_scan
    (SignForm.scan_append n.sign (unsigned_text isDigitClass_isDigit valid.mantissa n.exponentText))
  have notI := lower_text_ne valid.mantissa n.exponentText (d := 'i') (by decide)
  have notN := lower_text_ne valid.mantissa n.exponentText (d := 'n') (by decide)
  simp only [RealText.read?, NumberForm.text, body, notI, notN, or_self, if_false]

/-- A text is read as a number just if it has the form of one in ASCII digits, and then as what that
form denotes. -/
theorem RealText.read?_eq_finite_iff {text : List Char} {v : Numeral} :
    RealText.read? text = some (.finite v) ↔
      ∃ n : NumberForm, n.Valid isAsciiDigit ∧ n.text = text ∧ n.numeral = v := by
  constructor
  · obtain ⟨sign, body, scanned, rfl⟩ := SignForm.exists_scan text
    simp only [RealText.read?, readSign_of_scan scanned]
    split
    · exact nofun
    split
    · exact nofun
    intro eq
    obtain ⟨v', read, same⟩ := Option.map_eq_some_iff.1 eq
    obtain rfl := RealText.finite.inj same
    obtain ⟨n, valid, rfl, rfl, rfl⟩ := unsignedNumeral?_eq_some_iff.1 read
    exact ⟨n, valid, rfl, rfl⟩
  · rintro ⟨n, valid, rfl, rfl⟩
    have read := unsignedNumeral?_eq_some_iff.2 ⟨n, valid, rfl, rfl, rfl⟩
    rw [read?_text (valid.mono fun c _ => isDigit_of_isAsciiDigit), read, Option.map_some]

/-- A number with a digit of another script is not read at all. -/
theorem RealText.read?_eq_none {text : List Char} (number : IsNumber isDigit text)
    (foreign : ¬ IsNumber isAsciiDigit text) : RealText.read? text = none := by
  obtain ⟨n, valid, rfl⟩ := number
  rw [read?_text valid, Option.map_eq_none_iff]
  cases read : unsignedNumeral? n.sign.negative (n.mantissa.text ++ n.exponentText) with
  | none => rfl
  | some v =>
    obtain ⟨n', valid', sign, body, -⟩ := unsignedNumeral?_eq_some_iff.1 read
    refine absurd ⟨n', valid', ?_⟩ foreign
    rw [NumberForm.text, sign, body, NumberForm.text]

end Decimal

/-! ## The leading number -/

/-- The text begins with a number in digits of any script that is longer than the given one. -/
def IsLengthened (text start : List Char) : Prop :=
  ∃ longer, longer <+: text ∧ IsNumber isDigit longer ∧ start.length < longer.length

theorem isLongestStart_iff_not_isLengthened {text start : List Char} (begins : start <+: text)
    (number : IsNumber isDigit start) :
    IsLongestStart (IsNumber isDigit) text start ↔ ¬ IsLengthened text start := by
  constructor
  · rintro longest ⟨longer, begins, number, more⟩
    exact absurd (longest.longest longer begins number) (Nat.not_le.2 more)
  · refine fun alone => ⟨begins, number, fun other begins number => ?_⟩
    by_contra longer
    exact alone ⟨other, begins, number, Nat.lt_of_not_le longer⟩

theorem leadingNumber_of_isNumber {text : List Char} {n : NumberForm} (valid : n.Valid isAsciiDigit)
    (longest : IsLongestStart (IsNumber isDigit) (trimStart text) n.text) :
    leadingNumber text = n.numeral := by
  have found := LeadingNumber.text?_eq_some_iff.2 longest
  have read := RealText.read?_eq_finite_iff.2 ⟨n, valid, rfl, rfl⟩
  simp only [leadingNumber, found, Option.bind_some, read]

theorem leadingNumber_of_foreign {text start : List Char}
    (longest : IsLongestStart (IsNumber isDigit) (trimStart text) start)
    (foreign : ¬ IsNumber isAsciiDigit start) : leadingNumber text = .zero := by
  have found := LeadingNumber.text?_eq_some_iff.2 longest
  have read := RealText.read?_eq_none longest.holds foreign
  simp only [leadingNumber, found, Option.bind_some, read]

/-- A text is read as the longest number in ASCII digits that it begins with, to the nearest double,
unless digits of other scripts lengthen that number. Then the longer number is found and refused, and
zero is left. -/
theorem leadingNumber_reads_longest (text : List Char) :
    (∀ n : NumberForm, n.Valid isAsciiDigit →
      IsLongestStart (IsNumber isAsciiDigit) (trimStart text) n.text →
        (¬ IsLengthened (trimStart text) n.text →
          leadingNumber text = n.numeral ∧ n.numeral.toRat = n.value ∧
            IsNearestDouble n.value (leadingNumber text).toFloat) ∧
        (IsLengthened (trimStart text) n.text →
          leadingNumber text = .zero ∧ ∃ found,
            LeadingNumber.text? (trimStart text) = some found ∧ RealText.read? found = none)) ∧
      ((∃ start, start <+: trimStart text ∧ IsNumber isAsciiDigit start) →
        ∃ n : NumberForm, n.Valid isAsciiDigit ∧
          IsLongestStart (IsNumber isAsciiDigit) (trimStart text) n.text) ∧
      ((∀ start, start <+: trimStart text → ¬ IsNumber isAsciiDigit start) →
        leadingNumber text = .zero) ∧
      ((∀ c ∈ trimStart text, isDigit c = true → isAsciiDigit c = true) → ∀ start,
        IsLongestStart (IsNumber isAsciiDigit) (trimStart text) start →
          ¬ IsLengthened (trimStart text) start) ∧
      Numeral.zero.toFloat = 0.0 := by
  refine ⟨fun n valid longest => ⟨fun alone => ?_, fun lengthened => ?_⟩, ?_, fun noNumber => ?_,
    ?_, ?_⟩
  · have number := (isNumber_isAsciiDigit_iff.1 longest.holds).1
    have longest := (isLongestStart_iff_not_isLengthened longest.begins number).2 alone
    have reads := leadingNumber_of_isNumber valid longest
    refine ⟨reads, n.toRat_numeral, ?_⟩
    rw [reads, ← n.toRat_numeral]
    exact n.numeral.isNearestDouble_toFloat
  · obtain ⟨longer, begins, number, more⟩ := lengthened
    obtain ⟨found, longest'⟩ := exists_isLongestStart begins number
    have foreign : ¬ IsNumber isAsciiDigit found := fun ascii =>
      absurd (longest.longest found longest'.begins ascii)
        (Nat.not_le.2 (Nat.lt_of_lt_of_le more (longest'.longest longer begins number)))
    exact ⟨leadingNumber_of_foreign longest' foreign, found,
      LeadingNumber.text?_eq_some_iff.2 longest', RealText.read?_eq_none longest'.holds foreign⟩
  · rintro ⟨start, begins, number⟩
    obtain ⟨found, longest⟩ := exists_isLongestStart begins number
    obtain ⟨n, valid, rfl⟩ := longest.holds
    exact ⟨n, valid, longest⟩
  · cases scanned : LeadingNumber.text? (trimStart text) with
    | none => simp only [leadingNumber, scanned, Option.bind_none]
    | some found =>
      have longest := LeadingNumber.text?_eq_some_iff.1 scanned
      exact leadingNumber_of_foreign longest (noNumber found longest.begins)
  · rintro ascii start longest ⟨longer, begins, number, more⟩
    have number : IsNumber isAsciiDigit longer :=
      isNumber_isAsciiDigit_iff.2 ⟨number, fun c mem => ascii c (begins.subset mem)⟩
    exact absurd (longest.longest longer begins number) (Nat.not_le.2 more)
  · rfl

namespace Sample

/-- A four with an Arabic three behind it, and a text in which a letter ends the number. -/
theorem leadingNumber_reads_longest_foreign :
    leadingNumber ['4', '٣'] = .zero ∧
      leadingNumber [' ', '-', '1', '2', '.', '5', 'e', '1', 'x'] = ⟨true, 125, 0⟩ ∧
      leadingNumber ['m'] = .zero := by
  let four : NumberForm := ⟨.absent, ⟨['4'], none⟩, none⟩
  let plain : NumberForm := ⟨.minus, ⟨['1', '2'], some ['5']⟩, some ⟨false, .absent, ['1']⟩⟩
  have fourValid : four.Valid isAsciiDigit := ⟨⟨List.all_eq_true.1 rfl, by decide⟩, nofun⟩
  have plainValid : plain.Valid isAsciiDigit := by
    refine ⟨⟨List.all_eq_true.1 rfl, by decide⟩, ?_⟩
    rintro e ⟨⟩
    exact ⟨List.all_eq_true.1 rfl, by decide⟩
  refine ⟨?_, ?_, ?_⟩
  · have longest : IsLongestStart (IsNumber isAsciiDigit) (four.text ++ ['٣']) four.text := by
      refine isLongestStart_of_stop ⟨four, fourValid, rfl⟩ ?_
      rintro c ⟨⟩
      decide
    have scanned : IsLongestStart (IsNumber isDigit) ['4', '٣'] ['4', '٣'] :=
      LeadingNumber.text?_eq_some_iff.1 (by decide)
    have lengthened : IsLengthened ['4', '٣'] four.text :=
      ⟨_, List.prefix_rfl, scanned.holds, by decide⟩
    obtain ⟨reads, -⟩ := leadingNumber_reads_longest ['4', '٣']
    exact ((reads four fourValid longest).2 lengthened).1
  · have scanned : IsLongestStart (IsNumber isDigit) ['-', '1', '2', '.', '5', 'e', '1', 'x']
        plain.text :=
      LeadingNumber.text?_eq_some_iff.1 (by decide)
    have longest := scanned.strengthen (fun _ number => (isNumber_isAsciiDigit_iff.1 number).1)
      ⟨plain, plainValid, rfl⟩
    have alone := (isLongestStart_iff_not_isLengthened scanned.begins scanned.holds).1 scanned
    obtain ⟨reads, -⟩ := leadingNumber_reads_longest [' ', '-', '1', '2', '.', '5', 'e', '1', 'x']
    exact ((reads plain plainValid longest).1 alone).1
  · refine (leadingNumber_reads_longest _).2.2.1 fun start begins number => ?_
    exact LeadingNumber.text?_eq_none_iff.1 (by decide) start begins
      (isNumber_isAsciiDigit_iff.1 number).1

end Sample
end MeterSight
