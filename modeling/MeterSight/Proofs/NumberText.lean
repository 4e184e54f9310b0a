import MeterSight.Decimal.Whole
import MeterSight.Proofs.LongestNumber

/-!
# Texts of numbers

Which texts the readers of whole and of real numbers accept, and as what: a relation between texts
and numbers beside each reader.
-/
namespace MeterSight
open Text Decimal

/-- Digits that denote a natural number, with a plus sign in front if wanted. -/
def IsNatural (text : List Char) (n : Nat) : Prop :=
  ∃ digits, (text = digits ∨ text = '+' :: digits) ∧ IsDigitRow isAsciiDigit digits ∧
    naturalOf digits = n

namespace Decimal

theorem digits?_eq_some_iff {limit n : Nat} {text : List Char} :
    digits? limit text = some n ↔
      IsDigitRow isAsciiDigit text ∧ naturalOf text = n ∧ n ≤ limit := by
  unfold digits?
  split
  · next ok =>
    obtain ⟨ne, digits, bound⟩ := ok
    constructor
    · rintro ⟨⟩
      exact ⟨⟨List.all_eq_true.1 digits, ne⟩, rfl, bound⟩
    · rintro ⟨-, rfl, -⟩
      rfl
  · next bad =>
    refine ⟨nofun, ?_⟩
    rintro ⟨row, rfl, bound⟩
    exact absurd ⟨row.ne_nil, List.all_eq_true.2 row.digits, bound⟩ bad

/-- A row of digits has no sign in front. -/
theorem not_isDigitRow_cons {c : Char} (sign : c = '+' ∨ c = '-') (rest : List Char) :
    ¬ IsDigitRow isAsciiDigit (c :: rest) := by
  intro row
  have apart := isDigitClass_isAsciiDigit.ne_sign (row.digits c List.mem_cons_self)
  tauto

theorem natural?_eq_some_iff {limit n : Nat} {text : List Char} :
    natural? limit text = some n ↔ IsNatural text n ∧ n ≤ limit := by
  unfold natural? IsNatural
  fun_cases dropPlus text with
  | case1 rest =>
    rw [digits?_eq_some_iff]
    constructor
    · rintro ⟨row, value, bound⟩
      exact ⟨⟨rest, .inr rfl, row, value⟩, bound⟩
    · rintro ⟨⟨digits, rfl | same, row, value⟩, bound⟩
      · exact absurd row (not_isDigitRow_cons (.inl rfl) rest)
      · obtain rfl := List.tail_eq_of_cons_eq same
        exact ⟨row, value, bound⟩
  | case2 _ unsigned =>
    rw [digits?_eq_some_iff]
    constructor
    · rintro ⟨row, value, bound⟩
      exact ⟨⟨text, .inl rfl, row, value⟩, bound⟩
    · rintro ⟨⟨digits, rfl | rfl, row, value⟩, bound⟩
      · exact ⟨row, value, bound⟩
      · exact absurd rfl (unsigned digits)

theorem isNatural_of_natural? (limit : Nat) {n : Nat} {text : List Char}
    (h : natural? limit text = some n) : IsNatural text n :=
  (natural?_eq_some_iff.1 h).1

/-- A minus sign makes no positive number. -/
theorem integer?_eq_some_iff {limit n : Nat} {text : List Char} (positive : 0 < n) :
    integer? limit text = some (n : Int) ↔ IsNatural text n ∧ n ≤ limit := by
  fun_cases integer? limit text with
  | case1 digits =>
    constructor
    · intro eq
      obtain ⟨_, found, same⟩ := Option.map_eq_some_iff.1 eq
      obtain ⟨m, -, whole⟩ := Option.bind_eq_some_iff.1 found
      obtain rfl := Option.some.inj whole
      have below : -(m : Int) = n := same
      omega
    · rintro ⟨⟨row, rfl | same, digits, -⟩, -⟩
      · exact absurd digits (not_isDigitRow_cons (.inr rfl) _)
      · exact absurd (List.head_eq_of_cons_eq same) (by decide)
  | case2 =>
    rw [← natural?_eq_some_iff, Option.map_eq_some_iff]
    constructor
    · rintro ⟨m, read, same⟩
      obtain rfl := Int.ofNat.inj same
      exact read
    · intro read
      exact ⟨n, read, rfl⟩

end Decimal

namespace Decimal.RealText

/-- A text spells a real number, an infinity or no number: a numeral, or a name in letters of any
case with a sign if wanted. -/
inductive Spells : List Char → RealText → Prop
  | finite {n : NumberForm} (valid : n.Valid isAsciiDigit) : Spells n.text (.finite n.numeral)
  | infinite (sign : SignForm) {name : List Char}
      (named : name.map lower = ['i', 'n', 'f'] ∨
        name.map lower = ['i', 'n', 'f', 'i', 'n', 'i', 't', 'y']) :
      Spells (sign.text ++ name) (.infinite sign.negative)
  | notANumber (sign : SignForm) {name : List Char} (named : name.map lower = ['n', 'a', 'n']) :
      Spells (sign.text ++ name) .notANumber

/-- No sign is taken for the first letter of a name. -/
theorem readSign_name (sign : SignForm) {name rest : List Char} {d : Char}
    (named : name.map lower = d :: rest) (letter : d ≠ '+' ∧ d ≠ '-') :
    readSign (sign.text ++ name) = (sign.negative, name) := by
  refine readSign_of_scan (sign.scan_append fun c first => ?_)
  obtain ⟨c', more, rfl⟩ := List.exists_cons_of_ne_nil (l := name) (by rintro rfl; cases named)
  obtain rfl := Option.some.inj first
  obtain rfl := List.head_eq_of_cons_eq named
  constructor
  · rintro rfl
    exact letter.1 rfl
  · rintro rfl
    exact letter.2 rfl

theorem read?_eq_some_iff {text : List Char} {t : RealText} :
    read? text = some t ↔ Spells text t := by
  constructor
  · intro eq
    obtain ⟨sign, body, scanned, rfl⟩ := SignForm.exists_scan text
    have split := readSign_of_scan scanned
    cases t with
    | finite v =>
      obtain ⟨n, valid, same, rfl⟩ := read?_eq_finite_iff.1 eq
      exact same ▸ .finite valid
    | infinite negative =>
      simp only [read?, split] at eq
      split at eq
      · next named =>
        obtain rfl := infinite.inj (Option.some.inj eq)
        exact .infinite sign named
      split at eq
      · cases eq
      · simp at eq
    | notANumber =>
      simp only [read?, split] at eq
      split at eq
      · cases eq
      split at eq
      · next named => exact .notANumber sign named
      · simp at eq
  · intro spells
    cases spells with
    | @finite n valid => exact read?_eq_finite_iff.2 ⟨n, valid, rfl, rfl⟩
    | infinite sign named =>
      have split := named.elim (readSign_name sign · (by decide)) (readSign_name sign · (by decide))
      simp only [read?, split, if_pos named]
    | notANumber sign named =>
      simp [read?, readSign_name sign named (by decide), named]

end Decimal.RealText
end MeterSight
