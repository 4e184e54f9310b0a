import Mathlib
import MeterSight.Reading.LeadingNumber

/-!
# The form of numbers

A number is written as a sign, digits with at most one point among or beside them, and an exponent,
where sign, point and exponent may be missing. The scan of a text and the reading of a number split
off these parts one by one. They differ in which characters are digits.
-/
namespace MeterSight
open Text Decimal

namespace Text

theorem foldl_digitValue (n : Nat) (digits : List Char) :
    digits.foldl (fun n c => n * 10 + digitValue c) n =
      n * 10 ^ digits.length + naturalOf digits := by
  induction digits generalizing n with
  | nil => simp [naturalOf]
  | cons c more ih =>
    rw [naturalOf, List.foldl_cons, List.foldl_cons, ih, ih (0 * 10 + digitValue c),
      List.length_cons, Nat.pow_succ]
    ring

theorem naturalOf_append (front back : List Char) :
    naturalOf (front ++ back) = naturalOf front * 10 ^ back.length + naturalOf back := by
  rw [naturalOf, List.foldl_append, foldl_digitValue, ← naturalOf]

end Text

/-! ## Forms -/

inductive SignForm where
  | absent
  | plus
  | minus
  deriving DecidableEq, Repr

namespace SignForm

def text : SignForm → List Char
  | absent => []
  | plus => ['+']
  | minus => ['-']

def negative : SignForm → Bool
  | minus => true
  | _ => false

end SignForm

/-- The characters of a number that are no digits. -/
def numberMarks : List Char := ['+', '-', '.', 'e', 'E']

/-- A class of digits holds none of the other characters of a number. -/
def IsDigitClass (digit : Char → Bool) : Prop := ∀ c ∈ numberMarks, digit c = false

instance (digit : Char → Bool) : Decidable (IsDigitClass digit) :=
  List.decidableBAll (fun c => digit c = false) numberMarks

theorem isDigitClass_isDigit : IsDigitClass isDigit := by decide

theorem isDigitClass_isAsciiDigit : IsDigitClass isAsciiDigit := by decide

/-- Digits of a class, and one at least. -/
structure IsDigitRow (digit : Char → Bool) (row : List Char) : Prop where
  digits : ∀ c ∈ row, digit c = true
  ne_nil : row ≠ []

section
variable {digit : Char → Bool} (cls : IsDigitClass digit)
include cls

theorem IsDigitClass.ne_sign {c : Char} (own : digit c = true) : c ≠ '+' ∧ c ≠ '-' := by
  constructor
  · rintro rfl
    simp [cls '+' (by decide)] at own
  · rintro rfl
    simp [cls '-' (by decide)] at own

theorem IsDigitRow.unsigned {row : List Char} (digits : IsDigitRow digit row) (rest : List Char) :
    ∀ c ∈ (row ++ rest).head?, c ≠ '+' ∧ c ≠ '-' := by
  intro c first
  rw [List.head?_append_of_ne_nil _ digits.ne_nil] at first
  exact cls.ne_sign (digits.digits c (List.mem_of_head? first))

end

/-- Digits with at most one point among or beside them. What stands behind the point is missing
together with it. -/
structure MantissaForm where
  whole : List Char
  fraction : Option (List Char)
  deriving DecidableEq, Repr

namespace MantissaForm

def text (m : MantissaForm) : List Char := m.whole ++ m.fraction.elim [] ('.' :: ·)

/-- The digits without the point. -/
def digits (m : MantissaForm) : List Char := m.whole ++ m.fraction.getD []

theorem mem_text {m : MantissaForm} {c : Char} (mem : c ∈ m.text) : c ∈ m.digits ∨ c = '.' := by
  obtain ⟨whole, _ | fraction⟩ := m <;> simp [text, digits] at mem ⊢ <;> tauto

theorem mem_text_of_mem_digits {m : MantissaForm} {c : Char} (mem : c ∈ m.digits) :
    c ∈ m.text := by
  obtain ⟨whole, _ | fraction⟩ := m <;> simp [text, digits] at mem ⊢ <;> tauto

theorem text_ne_nil {m : MantissaForm} (ne : m.digits ≠ []) : m.text ≠ [] := by
  obtain ⟨c, own⟩ := List.exists_mem_of_ne_nil _ ne
  exact List.ne_nil_of_mem (mem_text_of_mem_digits own)

theorem exists_text_eq_cons {m : MantissaForm} (ne : m.digits ≠ []) :
    ∃ c more, m.text = c :: more ∧ (c ∈ m.digits ∨ c = '.') := by
  obtain ⟨c, more, eq⟩ := List.exists_cons_of_ne_nil (text_ne_nil ne)
  exact ⟨c, more, eq, mem_text (eq ▸ List.mem_cons_self)⟩

/-- No sign stands in front of the digits or the point. -/
theorem unsigned_text {digit : Char → Bool} (cls : IsDigitClass digit) {m : MantissaForm}
    (digits : IsDigitRow digit m.digits) (rest : List Char) :
    ∀ c ∈ (m.text ++ rest).head?, c ≠ '+' ∧ c ≠ '-' := by
  obtain ⟨c, more, eq, own | rfl⟩ := exists_text_eq_cons digits.ne_nil
  · simpa [eq] using cls.ne_sign (digits.digits c own)
  · simp [eq]

end MantissaForm

/-- A mark, a sign if there is one, and digits. -/
structure ExponentForm where
  capital : Bool
  sign : SignForm
  digits : List Char
  deriving DecidableEq, Repr

namespace ExponentForm

def mark (e : ExponentForm) : Char := if e.capital then 'E' else 'e'

def text (e : ExponentForm) : List Char := e.mark :: (e.sign.text ++ e.digits)

def value (e : ExponentForm) : Int :=
  if e.sign.negative then -(naturalOf e.digits : Int) else naturalOf e.digits

theorem mark_eq (e : ExponentForm) : e.mark = 'e' ∨ e.mark = 'E' := by
  cases capital : e.capital <;> simp [mark, capital]

theorem exists_capital {c : Char} (known : c = 'e' ∨ c = 'E') :
    ∃ capital : Bool, c = if capital then 'E' else 'e' := by
  rcases known with rfl | rfl
  · exact ⟨false, rfl⟩
  · exact ⟨true, rfl⟩

end ExponentForm

/-- The parts of a number as it is written. -/
structure NumberForm where
  sign : SignForm
  mantissa : MantissaForm
  exponent : Option ExponentForm
  deriving DecidableEq, Repr

namespace NumberForm

def exponentText (n : NumberForm) : List Char := n.exponent.elim [] ExponentForm.text

def text (n : NumberForm) : List Char := n.sign.text ++ (n.mantissa.text ++ n.exponentText)

/-- The digits are of the class, and there are some wherever there must be. -/
structure Valid (digit : Char → Bool) (n : NumberForm) : Prop where
  mantissa : IsDigitRow digit n.mantissa.digits
  exponent : ∀ e ∈ n.exponent, IsDigitRow digit e.digits

theorem mem_text {n : NumberForm} {c : Char} (mem : c ∈ n.text) :
    c ∈ n.mantissa.digits ∨ (∃ e ∈ n.exponent, c ∈ e.digits) ∨ c ∈ numberMarks := by
  have ofSign {sign : SignForm} (mem : c ∈ sign.text) : c ∈ numberMarks := by
    cases sign <;> simp [SignForm.text, numberMarks] at mem ⊢ <;> tauto
  obtain ⟨sign, m, exponent⟩ := n
  simp only [text, List.mem_append] at mem
  rcases mem with mem | mem | mem
  · exact .inr (.inr (ofSign mem))
  · rcases MantissaForm.mem_text mem with own | rfl
    · exact .inl own
    · exact .inr (.inr (by decide))
  · cases exponent with
    | none => exact nomatch mem
    | some e =>
      rcases List.mem_cons.1 mem with rfl | mem
      · rcases e.mark_eq with mark | mark <;> rw [mark] <;> exact .inr (.inr (by decide))
      · rcases List.mem_append.1 mem with mem | own
        · exact .inr (.inr (ofSign mem))
        · exact .inr (.inl ⟨e, rfl, own⟩)

theorem mem_text_of_mem_digits {n : NumberForm} {c : Char} (mem : c ∈ n.mantissa.digits) :
    c ∈ n.text :=
  List.mem_append_right _ (List.mem_append_left _ (MantissaForm.mem_text_of_mem_digits mem))

theorem mem_text_of_mem_exponent {n : NumberForm} {e : ExponentForm} (form : n.exponent = some e)
    {c : Char} (mem : c ∈ e.digits) : c ∈ n.text := by
  have own : c ∈ e.text := List.mem_cons_of_mem _ (List.mem_append_right _ mem)
  refine List.mem_append_right _ (List.mem_append_right _ ?_)
  rwa [exponentText, form]

theorem Valid.mono {digit digit' : Char → Bool} {n : NumberForm} (valid : n.Valid digit)
    (imp : ∀ c ∈ n.text, digit c = true → digit' c = true) : n.Valid digit' where
  mantissa := ⟨fun c mem => imp c (mem_text_of_mem_digits mem) (valid.mantissa.digits c mem),
    valid.mantissa.ne_nil⟩
  exponent e form := ⟨fun c mem => imp c (mem_text_of_mem_exponent form mem)
    ((valid.exponent e form).digits c mem), (valid.exponent e form).ne_nil⟩

/-- What is denoted: the digits without the point, times a power of ten that makes up for it. -/
def numeral (n : NumberForm) : Numeral where
  negative := n.sign.negative
  mantissa := naturalOf n.mantissa.digits
  exponent := n.exponent.elim 0 ExponentForm.value - (n.mantissa.fraction.getD []).length

end NumberForm

/-- A text has the form of a number in digits of a class. -/
def IsNumber (digit : Char → Bool) (text : List Char) : Prop :=
  ∃ n : NumberForm, n.Valid digit ∧ n.text = text

theorem IsNumber.digit_or_mem_numberMarks {digit : Char → Bool} {text : List Char}
    (number : IsNumber digit text) {c : Char} (mem : c ∈ text) :
    digit c = true ∨ c ∈ numberMarks := by
  obtain ⟨n, valid, rfl⟩ := number
  rcases NumberForm.mem_text mem with mem | ⟨e, form, mem⟩ | mark
  · exact .inl (valid.mantissa.digits c mem)
  · exact .inl ((valid.exponent e form).digits c mem)
  · exact .inr mark

/-- The numbers in ASCII digits are those without a digit of another script. -/
theorem isNumber_isAsciiDigit_iff {text : List Char} :
    IsNumber isAsciiDigit text ↔
      IsNumber isDigit text ∧ ∀ c ∈ text, isDigit c = true → isAsciiDigit c = true := by
  constructor
  · intro number
    refine ⟨?_, fun c mem own => ?_⟩
    · obtain ⟨n, valid, rfl⟩ := number
      exact ⟨n, valid.mono fun c _ => isDigit_of_isAsciiDigit, rfl⟩
    · rcases number.digit_or_mem_numberMarks mem with ascii | mark
      · exact ascii
      · exact absurd own (by simp [isDigitClass_isDigit c mark])
  · rintro ⟨⟨n, valid, rfl⟩, ascii⟩
    exact ⟨n, valid.mono ascii, rfl⟩

/-! ## Rows of digits in a text -/

section row
variable {digit : Char → Bool} {row rest : List Char}

theorem takeWhile_append_of_stop (digits : ∀ c ∈ row, digit c = true)
    (stop : ∀ c ∈ rest.head?, digit c = false) : (row ++ rest).takeWhile digit = row := by
  rw [List.takeWhile_append_of_pos digits]
  cases rest with
  | nil => simp
  | cons c more => simp [stop c rfl]

theorem dropWhile_append_of_stop (digits : ∀ c ∈ row, digit c = true)
    (stop : ∀ c ∈ rest.head?, digit c = false) : (row ++ rest).dropWhile digit = rest := by
  rw [List.dropWhile_append_of_pos digits]
  cases rest with
  | nil => simp
  | cons c more => simp [stop c rfl]

end row

/-! ## The sign -/

namespace SignForm

/-- The sign that a text begins with, and the rest. -/
def scan : List Char → SignForm × List Char
  | '+' :: rest => (.plus, rest)
  | '-' :: rest => (.minus, rest)
  | rest => (.absent, rest)

theorem exists_scan (text : List Char) : ∃ sign more,
    scan text = (sign, more) ∧ sign.text ++ more = text := by
  fun_cases scan text <;> exact ⟨_, _, rfl, rfl⟩

/-- The scan stops where no sign follows. -/
theorem scan_append (sign : SignForm) {rest : List Char}
    (unsigned : ∀ c ∈ rest.head?, c ≠ '+' ∧ c ≠ '-') : scan (sign.text ++ rest) = (sign, rest) := by
  cases sign with
  | plus => rfl
  | minus => rfl
  | absent =>
    show scan rest = (.absent, rest)
    fun_cases scan rest
    · simp at unsigned
    · simp at unsigned
    · rfl

end SignForm

section sign
variable {text rest : List Char} {sign : SignForm}

theorem LeadingNumber.splitSign_of_scan (eq : SignForm.scan text = (sign, rest)) :
    splitSign text = (sign.text, rest) := by
  fun_cases SignForm.scan text <;> obtain ⟨rfl, rfl⟩ := Prod.mk.inj eq
  · rfl
  · rfl
  · simp only [splitSign]
    rfl

theorem Decimal.readSign_of_scan (eq : SignForm.scan text = (sign, rest)) :
    readSign text = (sign.negative, rest) := by
  fun_cases SignForm.scan text <;> obtain ⟨rfl, rfl⟩ := Prod.mk.inj eq
  · rfl
  · rfl
  · simp only [readSign]
    rfl

end sign

/-! ## The mantissa -/

namespace MantissaForm

/-- The digits of a class that a text begins with, across one point, and the rest. -/
def scan (digit : Char → Bool) (text : List Char) : MantissaForm × List Char :=
  match text.dropWhile digit with
  | '.' :: more => (⟨text.takeWhile digit, some (more.takeWhile digit)⟩, more.dropWhile digit)
  | rest => (⟨text.takeWhile digit, none⟩, rest)

theorem text_scan_append (digit : Char → Bool) (text : List Char) :
    (scan digit text).1.text ++ (scan digit text).2 = text := by
  have parts := List.takeWhile_append_dropWhile (p := digit) (l := text)
  unfold scan
  split
  · next more point =>
    rw [point] at parts
    simpa [MantissaForm.text, List.takeWhile_append_dropWhile] using parts
  · simp [MantissaForm.text]

theorem digits_scan (digit : Char → Bool) (text : List Char) :
    ∀ c ∈ (scan digit text).1.digits, digit c = true := by
  have digits (l : List Char) : ∀ c ∈ l.takeWhile digit, digit c = true :=
    fun c mem => List.mem_takeWhile_imp mem
  unfold scan
  split
  · next more point =>
    intro c mem
    exact (List.mem_append.1 mem).elim (digits text c) (digits more c)
  · simpa [MantissaForm.digits] using digits text

variable {digit : Char → Bool}

theorem exists_scan (digit : Char → Bool) (text : List Char) : ∃ m more,
    scan digit text = (m, more) ∧ m.text ++ more = text ∧ ∀ c ∈ m.digits, digit c = true :=
  ⟨_, _, Prod.mk.eta.symm, text_scan_append digit text, digits_scan digit text⟩

theorem scan_pointed (cls : IsDigitClass digit) {whole : List Char}
    (digits : ∀ c ∈ whole, digit c = true) (more : List Char) :
    scan digit (whole ++ '.' :: more) =
      (⟨whole, some (more.takeWhile digit)⟩, more.dropWhile digit) := by
  have stop : ∀ c ∈ ('.' :: more).head?, digit c = false := by
    simpa using cls '.' (by decide)
  simp only [scan, takeWhile_append_of_stop digits stop, dropWhile_append_of_stop digits stop]

section exact
variable {m : MantissaForm} (cls : IsDigitClass digit) (digits : ∀ c ∈ m.digits, digit c = true)
include cls digits

/-- The scan stops where neither a digit nor a point follows. -/
theorem scan_append {rest : List Char} (stop : ∀ c ∈ rest.head?, digit c = false ∧ c ≠ '.') :
    scan digit (m.text ++ rest) = (m, rest) := by
  have noDigit : ∀ c ∈ rest.head?, digit c = false := fun c first => (stop c first).1
  obtain ⟨whole, _ | fraction⟩ := m
  · have digits : ∀ c ∈ whole, digit c = true := by simpa [MantissaForm.digits] using digits
    simp only [scan, MantissaForm.text, Option.elim_none, List.append_nil,
      takeWhile_append_of_stop digits noDigit, dropWhile_append_of_stop digits noDigit]
    split
    · simp at stop
    · rfl
  · obtain ⟨front, back⟩ : (∀ c ∈ whole, digit c = true) ∧ ∀ c ∈ fraction, digit c = true :=
      List.forall_mem_append.1 digits
    simp only [MantissaForm.text, Option.elim_some, List.append_assoc, List.cons_append,
      scan_pointed cls front, takeWhile_append_of_stop back noDigit,
      dropWhile_append_of_stop back noDigit]

/-- What follows the digits can only lengthen what the scan takes. -/
theorem text_prefix_scan (rest : List Char) :
    m.text <+: (scan digit (m.text ++ rest)).1.text := by
  obtain ⟨whole, _ | fraction⟩ := m
  · have digits : ∀ c ∈ whole, digit c = true := by simpa [MantissaForm.digits] using digits
    simp only [scan, MantissaForm.text, Option.elim_none, List.append_nil,
      List.takeWhile_append_of_pos digits]
    split <;> simp only [List.append_assoc, List.prefix_append]
  · obtain ⟨front, back⟩ : (∀ c ∈ whole, digit c = true) ∧ ∀ c ∈ fraction, digit c = true :=
      List.forall_mem_append.1 digits
    simp only [MantissaForm.text, Option.elim_some, List.append_assoc, List.cons_append,
      scan_pointed cls front, List.takeWhile_append_of_pos back]
    exact ⟨rest.takeWhile digit, by simp⟩

end exact
end MantissaForm

section eq
variable {text rest : List Char} {m : MantissaForm}

theorem LeadingNumber.splitMantissa_of_scan (eq : MantissaForm.scan isDigit text = (m, rest)) :
    splitMantissa text = if m.digits = [] then ([], text) else (m.text, rest) := by
  unfold MantissaForm.scan at eq
  split at eq
  · next point =>
    obtain ⟨rfl, rfl⟩ := Prod.mk.inj eq
    simp [splitMantissa, point, MantissaForm.digits, MantissaForm.text]
  · next more noPoint =>
    obtain ⟨rfl, rfl⟩ := Prod.mk.inj eq
    have none : splitMantissa text = (text.takeWhile isDigit, text.dropWhile isDigit) := by
      simp only [splitMantissa]
    by_cases whole : text.takeWhile isDigit = []
    · have left : text.dropWhile isDigit = text := by
        simpa [whole] using List.takeWhile_append_dropWhile (p := isDigit) (l := text)
      simp [none, MantissaForm.digits, whole, left]
    · simp [none, MantissaForm.digits, MantissaForm.text, whole]

theorem Decimal.unsignedNumeral?_of_scan (negative : Bool)
    (eq : MantissaForm.scan isAsciiDigit text = (m, rest)) :
    unsignedNumeral? negative text =
      if m.digits = [] then none
      else (exponentOf? rest).map fun e =>
        ⟨negative, naturalOf m.digits, e - (m.fraction.getD []).length⟩ := by
  unfold MantissaForm.scan at eq
  split at eq
  · next point =>
    obtain ⟨rfl, rfl⟩ := Prod.mk.inj eq
    simp [unsignedNumeral?, point, MantissaForm.digits]
  · next more noPoint =>
    obtain ⟨rfl, rfl⟩ := Prod.mk.inj eq
    simp only [unsignedNumeral?]
    rfl

end eq

/-! ## The exponent -/

theorem IsDigitClass.stop_exponent {digit : Char → Bool} (cls : IsDigitClass digit)
    (e : ExponentForm) (rest : List Char) :
    ∀ c ∈ (e.text ++ rest).head?, digit c = false ∧ c ≠ '.' := by
  rintro c ⟨⟩
  rcases e.mark_eq with mark | mark <;> rw [mark]
  · exact ⟨cls 'e' (by decide), by decide⟩
  · exact ⟨cls 'E' (by decide), by decide⟩

namespace LeadingNumber

theorem exists_exponentText (text : List Char) : ∃ exponent : Option ExponentForm,
    (∀ e ∈ exponent, IsDigitRow isDigit e.digits) ∧
      exponentText text = exponent.elim [] ExponentForm.text ∧ exponentText text <+: text := by
  cases text with
  | nil => exact ⟨none, by simp, rfl, List.prefix_rfl⟩
  | cons c rest =>
    obtain ⟨sign, more, scanned, rfl⟩ := SignForm.exists_scan rest
    simp only [exponentText, splitSign_of_scan scanned]
    split
    · next complete =>
      obtain ⟨capital, rfl⟩ := ExponentForm.exists_capital complete.1
      refine ⟨some ⟨capital, sign, more.takeWhile isDigit⟩, ?_, rfl, ?_⟩
      · rintro e ⟨⟩
        exact ⟨fun c mem => List.mem_takeWhile_imp mem, complete.2⟩
      · rw [List.cons_prefix_cons, List.prefix_append_right_inj]
        exact ⟨rfl, List.takeWhile_prefix isDigit⟩
    · exact ⟨none, by simp, rfl, List.nil_prefix⟩

/-- What follows the digits can only lengthen the exponent. -/
theorem text_prefix_exponentText {e : ExponentForm} (digits : IsDigitRow isDigit e.digits)
    (rest : List Char) : e.text <+: exponentText (e.text ++ rest) := by
  have split := splitSign_of_scan
    (SignForm.scan_append e.sign (digits.unsigned isDigitClass_isDigit rest))
  have took : (e.digits ++ rest).takeWhile isDigit = e.digits ++ rest.takeWhile isDigit :=
    List.takeWhile_append_of_pos digits.digits
  simp only [ExponentForm.text, exponentText, List.cons_append, List.append_assoc, split, took]
  rw [if_pos ⟨e.mark_eq, by simp [digits.ne_nil]⟩]
  exact ⟨rest.takeWhile isDigit, by simp⟩

end LeadingNumber

theorem Decimal.exponentOf?_eq_some_iff {text : List Char} {value : Int} :
    exponentOf? text = some value ↔ ∃ exponent : Option ExponentForm,
      (∀ e ∈ exponent, IsDigitRow isAsciiDigit e.digits) ∧
        exponent.elim [] ExponentForm.text = text ∧ exponent.elim 0 ExponentForm.value = value := by
  constructor
  · cases text with
    | nil => exact fun eq => ⟨none, by simp, rfl, Option.some.inj eq⟩
    | cons c rest =>
      obtain ⟨sign, digits, scanned, rfl⟩ := SignForm.exists_scan rest
      simp only [exponentOf?, readSign_of_scan scanned]
      split
      · next complete =>
        intro eq
        obtain ⟨capital, rfl⟩ := ExponentForm.exists_capital complete.1
        refine ⟨some ⟨capital, sign, digits⟩, ?_, rfl, Option.some.inj eq⟩
        rintro e ⟨⟩
        exact ⟨List.all_eq_true.1 complete.2.2, complete.2.1⟩
      · exact fun eq => nomatch eq
  · rintro ⟨_ | e, digits, rfl, rfl⟩
    · rfl
    · have digits := digits e rfl
      have unsigned := digits.unsigned isDigitClass_isAsciiDigit []
      rw [List.append_nil] at unsigned
      have read := readSign_of_scan (SignForm.scan_append e.sign unsigned)
      simp only [Option.elim_some, ExponentForm.text, exponentOf?, read]
      exact if_pos ⟨e.mark_eq, digits.ne_nil, List.all_eq_true.2 digits.digits⟩

end MeterSight
