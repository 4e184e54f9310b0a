import MeterSight.Proofs.LongestNumber

/-!
# Blocks of digits

A row of digits that is cut into blocks denotes the sum of what the blocks denote, each times ten to
the number of digits to its right. A text that is a block of digits, or one with the letter m behind
it, begins with just the number that the block denotes.
-/
namespace MeterSight
open Text Decimal

namespace Text

theorem digitValue_lt {c : Char} (h : isAsciiDigit c = true) : digitValue c < 10 := by
  have upper := (isAsciiDigit_iff.1 h).2
  unfold digitValue
  omega

theorem naturalOf_lt {digits : List Char} (ascii : ∀ c ∈ digits, isAsciiDigit c = true) :
    naturalOf digits < 10 ^ digits.length := by
  induction digits with
  | nil => simp [naturalOf]
  | cons c more ih =>
    obtain ⟨first, rest⟩ := List.forall_mem_cons.1 ascii
    have value := digitValue_lt first
    have below := ih rest
    calc naturalOf (c :: more) = digitValue c * 10 ^ more.length + naturalOf more := by
          simpa [naturalOf] using naturalOf_append [c] more
      _ < digitValue c * 10 ^ more.length + 10 ^ more.length := by omega
      _ = (digitValue c + 1) * 10 ^ more.length := by ring
      _ ≤ 10 * 10 ^ more.length := Nat.mul_le_mul_right _ value
      _ = 10 ^ (c :: more).length := by rw [List.length_cons, Nat.pow_succ']

end Text

/-! ## Places -/

/-- A block of digits with the number of digits to its right. -/
structure Place where
  block : List Char
  right : Nat
  deriving DecidableEq, Repr

/-- What a block contributes to the number. -/
def Place.worth (p : Place) : Nat := naturalOf p.block * 10 ^ p.right

/-- The places of the blocks that a row of digits is cut into. -/
def places : List (List Char) → List Place
  | [] => []
  | block :: more => ⟨block, more.flatten.length⟩ :: places more

theorem sum_worth_places (blocks : List (List Char)) :
    ((places blocks).map Place.worth).sum = naturalOf blocks.flatten := by
  induction blocks with
  | nil => rfl
  | cons block more ih =>
    rw [places, List.map_cons, List.sum_cons, ih, List.flatten_cons, naturalOf_append, Place.worth]

theorem block_mem_of_mem_places {blocks : List (List Char)} {p : Place} (mem : p ∈ places blocks) :
    p.block ∈ blocks := by
  induction blocks with
  | nil => simp [places] at mem
  | cons block more ih =>
    rcases List.mem_cons.1 mem with rfl | mem
    · exact List.mem_cons_self
    · exact List.mem_cons_of_mem _ (ih mem)

theorem length_add_right_le {blocks : List (List Char)} {p : Place} (mem : p ∈ places blocks) :
    p.block.length + p.right ≤ blocks.flatten.length := by
  induction blocks with
  | nil => simp [places] at mem
  | cons block more ih =>
    rw [List.flatten_cons, List.length_append]
    rcases List.mem_cons.1 mem with rfl | mem
    · exact Nat.le_refl _
    · exact Nat.le_trans (ih mem) (Nat.le_add_left ..)

theorem naturalOf_flatten_lt {blocks : List (List Char)}
    (ascii : ∀ block ∈ blocks, ∀ c ∈ block, isAsciiDigit c = true) :
    naturalOf blocks.flatten < 10 ^ blocks.flatten.length := by
  refine naturalOf_lt fun c mem => ?_
  obtain ⟨block, inside, own⟩ := List.mem_flatten.1 mem
  exact ascii block inside c own

/-! ## Reading a block -/

theorem isBlank_of_isAsciiDigit {c : Char} (h : isAsciiDigit c = true) : isBlank c = false := by
  obtain ⟨lower, upper⟩ := isAsciiDigit_iff.1 h
  simp only [isBlank, Bool.or_eq_false_iff, Bool.and_eq_false_iff, decide_eq_false_iff_not,
    beq_eq_false_iff_ne]
  omega

/-- Behind a block there is nothing, or the letter m. -/
theorem leadingNumber_block {block unit : List Char} (ne : block ≠ [])
    (ascii : ∀ c ∈ block, isAsciiDigit c = true) (known : unit = [] ∨ unit = ['m']) :
    leadingNumber (block ++ unit) = ⟨false, naturalOf block, 0⟩ := by
  let number : NumberForm := ⟨.absent, ⟨block, none⟩, none⟩
  have digits : number.mantissa.digits = block := by simp [number, MantissaForm.digits]
  have text : number.text = block := by
    simp [number, NumberForm.text, NumberForm.exponentText, MantissaForm.text, SignForm.text]
  have valid : number.Valid isAsciiDigit := ⟨digits.symm ▸ ⟨ascii, ne⟩, by simp [number]⟩
  have scanned : IsNumber isDigit block :=
    ⟨number, valid.mono fun c _ => isDigit_of_isAsciiDigit, text⟩
  have longest : IsLongestStart (IsNumber isDigit) (block ++ unit) number.text := by
    rw [text]
    refine isLongestStart_of_stop scanned ?_
    rcases known with rfl | rfl
    · simp
    · simp only [List.head?_cons, Option.mem_some_iff, forall_eq']
      decide
  have trimmed : trimStart (block ++ unit) = block ++ unit := by
    obtain ⟨c, more, rfl⟩ := List.exists_cons_of_ne_nil ne
    rw [trimStart, List.cons_append, List.dropWhile_cons_of_neg]
    simp [isBlank_of_isAsciiDigit (ascii c List.mem_cons_self)]
  rw [leadingNumber_of_isNumber valid (trimmed.symm ▸ longest)]
  simp [number, NumberForm.numeral, MantissaForm.digits, SignForm.negative]

end MeterSight
