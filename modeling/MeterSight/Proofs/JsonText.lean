import MeterSight.Document.Json
import MeterSight.Proofs.FiniteDocument
import MeterSight.Proofs.NumberForm

/-!
# JSON texts that are read back

A document is read back from the JSON text that it is written as, if all of its doubles are. Not all
are, since reading rounds twice.
-/
namespace MeterSight.Json
open Text Decimal

/-! ### Strings -/

theorem readString_jsonEscape_of_control (fuel : Nat) {n : Nat} (low : n < 32) (rest : List Char) :
    readString (fuel + 1) (jsonEscape (Char.ofNat n) ++ rest) =
      (readString fuel rest).bind fun (found, rest) =>
        some (some (Char.ofNat n) :: found, rest) := by
  interval_cases n <;> rfl

theorem jsonEscape_of_plain {c : Char} (high : 32 ≤ c.toNat) (quote : c ≠ '"')
    (backslash : c ≠ '\\') : jsonEscape c = [c] := by
  have other {d : Char} (low : d.toNat < 32) : c ≠ d := by
    rintro rfl
    omega
  rw [jsonEscape, if_neg quote, if_neg backslash, if_neg (by omega), if_neg (by omega),
    if_neg (other (by decide)), if_neg (other (by decide)), if_neg (other (by decide)),
    if_neg (by omega)]

/-- An escaped character is read as one, whichever way it is escaped. -/
theorem readString_jsonEscape (fuel : Nat) (c : Char) (rest : List Char) :
    readString (fuel + 1) (jsonEscape c ++ rest) =
      (readString fuel rest).bind fun (found, rest) => some (some c :: found, rest) := by
  by_cases low : c.toNat < 32
  · have control := readString_jsonEscape_of_control fuel low rest
    rwa [Char.ofNat_toNat] at control
  by_cases quote : c = '"'
  · subst quote
    rfl
  by_cases backslash : c = '\\'
  · subst backslash
    rfl
  · rw [jsonEscape_of_plain (by omega) quote backslash, List.singleton_append, readString,
      if_neg (by tauto)]
    · rfl
    all_goals simp_all

theorem readString_flatMap (text : List Char) (rest : List Char) {fuel : Nat}
    (enough : text.length < fuel) :
    readString fuel (text.flatMap jsonEscape ++ '"' :: rest) = some (text.map some, rest) := by
  induction text generalizing fuel with
  | nil =>
    obtain ⟨fuel, rfl⟩ := Nat.exists_eq_add_of_lt enough
    rfl
  | cons c text ih =>
    obtain ⟨fuel, rfl⟩ := Nat.exists_eq_add_of_lt enough
    rw [List.flatMap_cons, List.append_assoc, readString_jsonEscape, ih (by simp; omega)]
    rfl

theorem length_le_length_flatMap_jsonEscape (text : List Char) :
    text.length ≤ (text.flatMap jsonEscape).length := by
  induction text with
  | nil => exact Nat.le_refl 0
  | cons c text ih =>
    have one : 1 ≤ (jsonEscape c).length := by
      unfold jsonEscape controlEscape
      split_ifs <;> simp
    rw [List.flatMap_cons, List.length_append, List.length_cons]
    omega

theorem string?_quoted (s : String) (rest : List Char) :
    string? (s.toList.flatMap jsonEscape ++ '"' :: rest) = some (some s, rest) := by
  have long := length_le_length_flatMap_jsonEscape s.toList
  have whole : (s.toList.map some).mapM id = some s.toList :=
    mapM_map_eq_some (f := id) (fun _ => rfl) _
  rw [string?, readString_flatMap _ _ (by rw [List.length_append]; omega)]
  simp [whole]

/-! ### Numbers -/

/-- What follows a value that has ended. -/
def Closed (rest : List Char) : Prop := ∀ c ∈ rest.head?, c = ',' ∨ c = ']' ∨ c = '}'

theorem naturalOf_toDigits (n : Nat) : naturalOf (Nat.toDigits 10 n) = n := by
  have value := Nat.ofDigitChars_toDigits (b := 10) (n := n) (by decide) (by decide)
  have same : (fun sofar c => 10 * sofar + (Char.toNat c - '0'.toNat)) =
      fun sofar c => sofar * 10 + digitValue c := by
    funext sofar c
    rw [Nat.mul_comm]
    rfl
  rwa [Nat.ofDigitChars, same] at value

theorem isAsciiDigit_of_mem_toDigits {n : Nat} {c : Char} (mem : c ∈ Nat.toDigits 10 n) :
    isAsciiDigit c = true := by
  have digit := Nat.isDigit_of_mem_toDigits (by decide) (by decide) mem
  simp only [Char.isDigit, Bool.and_eq_true, decide_eq_true_eq] at digit
  exact isAsciiDigit_iff.2 digit

/-- Only zero begins with the digit zero. -/
theorem eq_zero_of_head?_toDigits {n : Nat} (zero : (Nat.toDigits 10 n).head? = some '0') :
    n = 0 := by
  induction n using Nat.strongRecOn with
  | ind n ih =>
    rw [Nat.toDigits_eq_if (by decide)] at zero
    split at zero
    · next small =>
      interval_cases n <;> first | rfl | cases zero
    · next large =>
      rw [List.head?_append, Option.or_of_isSome (by simp [Nat.toDigits_ne_nil])] at zero
      have none := ih (n / 10) (by omega) zero
      omega

theorem readNumber_toDigits (negative : Bool) (n : Nat) :
    readNumber negative (Nat.toDigits 10 n) =
      some (NumberText.toDocument ⟨negative, Nat.toDigits 10 n, [], none⟩, []) := by
  have digits : ∀ c ∈ Nat.toDigits 10 n, isAsciiDigit c = true :=
    fun c => isAsciiDigit_of_mem_toDigits
  have sound : ¬ (Nat.toDigits 10 n = [] ∨
      ((Nat.toDigits 10 n).head? = some '0' ∧ Nat.toDigits 10 n ≠ ['0'])) := by
    rintro (none | ⟨zero, more⟩)
    · exact Nat.toDigits_ne_nil none
    · rw [eq_zero_of_head?_toDigits zero] at more
      exact more rfl
  rw [readNumber, List.takeWhile_eq_self_iff.2 digits, List.dropWhile_eq_nil_iff.2 digits]
  exact if_neg sound

section number
variable {rest : List Char} (closed : Closed rest)
include closed

theorem readFraction_of_closed : readFraction rest = some ([], rest) := by
  unfold readFraction
  split
  · simp [Closed] at closed
  · rfl

theorem readExponent_of_closed : readExponent rest = some (none, rest) := by
  unfold readExponent
  split
  · next c more =>
    have stop := closed c rfl
    rw [if_neg]
    rintro (rfl | rfl) <;> simp at stop
  · rfl

theorem isAsciiDigit_head?_of_closed : ∀ c ∈ rest.head?, isAsciiDigit c = false := by
  intro c mem
  obtain rfl | rfl | rfl := closed c mem <;> rfl

theorem takeWhile_append_of_closed (cs : List Char) :
    (cs ++ rest).takeWhile isAsciiDigit = cs.takeWhile isAsciiDigit := by
  induction cs with
  | nil => exact takeWhile_append_of_stop nofun (isAsciiDigit_head?_of_closed closed)
  | cons c cs ih => simp only [List.cons_append, List.takeWhile_cons, ih]

theorem dropWhile_append_of_closed (cs : List Char) :
    (cs ++ rest).dropWhile isAsciiDigit = cs.dropWhile isAsciiDigit ++ rest := by
  induction cs with
  | nil => exact dropWhile_append_of_stop nofun (isAsciiDigit_head?_of_closed closed)
  | cons c cs ih =>
    simp only [List.cons_append, List.dropWhile_cons, ih]
    split <;> rfl

theorem readFraction_append {cs more fraction : List Char}
    (eq : readFraction cs = some (fraction, more)) :
    readFraction (cs ++ rest) = some (fraction, more ++ rest) := by
  unfold readFraction at eq
  split at eq
  · next digits =>
    dsimp only at eq
    split at eq
    · cases eq
    · next some =>
      cases eq
      rw [List.cons_append, readFraction, takeWhile_append_of_closed closed,
        dropWhile_append_of_closed closed]
      exact if_neg some
  · next other =>
    cases eq
    cases cs with
    | nil => exact readFraction_of_closed closed
    | cons c cs =>
      rw [List.cons_append, readFraction]
      rintro rest ⟨⟩
      exact other _ rfl

omit closed in
theorem exponentSign_append {cs more : List Char} {negative : Bool}
    (eq : exponentSign cs = (negative, more)) (some : more ≠ []) :
    exponentSign (cs ++ rest) = (negative, more ++ rest) := by
  unfold exponentSign at eq
  split at eq
  · cases eq
    rfl
  · cases eq
    rfl
  · next plus minus =>
    cases eq
    obtain ⟨c, digits, rfl⟩ := List.exists_cons_of_ne_nil some
    rw [List.cons_append, exponentSign]
    · rintro rest ⟨⟩
      exact plus _ rfl
    · rintro rest ⟨⟩
      exact minus _ rfl

theorem readExponent_append {cs more : List Char} {exponent : Option (Bool × List Char)}
    (eq : readExponent cs = some (exponent, more)) :
    readExponent (cs ++ rest) = some (exponent, more ++ rest) := by
  cases cs with
  | nil =>
    cases eq
    exact readExponent_of_closed closed
  | cons mark cs =>
    rw [readExponent] at eq
    rw [List.cons_append, readExponent]
    split at eq
    · next letter =>
      rw [if_pos letter]
      rcases signed : exponentSign cs with ⟨negative, digits⟩
      rw [signed] at eq
      dsimp only at eq
      split at eq
      · cases eq
      · next some =>
        cases eq
        have present : digits ≠ [] := by
          rintro rfl
          exact some rfl
        rw [exponentSign_append signed present]
        dsimp only
        rw [takeWhile_append_of_closed closed, dropWhile_append_of_closed closed, if_neg some]
    · next other =>
      cases eq
      exact if_neg other

/-- A number stands alone as it stands before what follows a value. -/
theorem readNumber_append {negative : Bool} {cs : List Char} {d : Document}
    (eq : readNumber negative cs = some (d, [])) :
    readNumber negative (cs ++ rest) = some (d, rest) := by
  unfold readNumber at eq ⊢
  rw [takeWhile_append_of_closed closed, dropWhile_append_of_closed closed]
  dsimp only at eq ⊢
  split at eq
  · cases eq
  · next some =>
    obtain ⟨⟨fraction, more⟩, first, eq⟩ := Option.bind_eq_some_iff.1 eq
    obtain ⟨⟨exponent, last⟩, second, eq⟩ := Option.bind_eq_some_iff.1 eq
    cases eq
    rw [if_neg some, readFraction_append closed first]
    simp [readExponent_append closed second]

end number

/-! ### Values -/

/-- The text of a value is read to its end, whatever may follow there. Blanks and a closing bracket
do not begin a value. -/
structure IsText (value : List Char → Option (Document × List Char)) (text : List Char)
    (d : Document) : Prop where
  begins : ∃ c more, text = c :: more ∧ isSpace c = false ∧ c ≠ ']'
  read : ∀ rest, Closed rest → value (text ++ rest) = some (d, rest)

/-- The text of a double is read as the same double. -/
def FloatReadsBack (x : Float) : Prop :=
  readValue 1 (numberText x).toList = some (.float x, [])

theorem readValue_of_digit {c : Char} (digit : isAsciiDigit c = true) (depth : Nat)
    (rest : List Char) : readValue (depth + 1) (c :: rest) = readNumber false (c :: rest) := by
  rw [readValue.eq_def]
  dsimp only
  split <;> first | rfl | (rename_i same; cases same; cases digit)

/-- A number begins with a digit. -/
theorem exists_of_readNumber {negative : Bool} {text more : List Char} {d : Document}
    (eq : readNumber negative text = some (d, more)) :
    ∃ c cs, text = c :: cs ∧ isAsciiDigit c = true := by
  cases text with
  | nil => cases eq
  | cons c cs =>
    refine ⟨c, cs, rfl, ?_⟩
    by_contra other
    have none : (c :: cs).takeWhile isAsciiDigit = [] := by simp [other]
    rw [readNumber, none] at eq
    cases eq

/-- Only numbers are read as doubles. -/
theorem readNumber_of_readValue {depth : Nat} {text more : List Char} {x : Float}
    (eq : readValue (depth + 1) text = some (.float x, more)) :
    (∃ cs, text = '-' :: cs ∧ readNumber true cs = some (.float x, more)) ∨
      readNumber false text = some (.float x, more) := by
  rw [readValue.eq_def] at eq
  dsimp only at eq
  have word {name : String} {cs : List Char} {d : Document}
      (eq : (word? name cs).map (d, ·) = some (.float x, more)) : d = .float x := by
    obtain ⟨_, -, same⟩ := Option.map_eq_some_iff.1 eq
    exact congrArg Prod.fst same
  split at eq
  · obtain ⟨⟨s, _⟩, -, same⟩ := Option.map_eq_some_iff.1 eq
    cases s <;> cases same
  · next cs => exact .inl ⟨cs, rfl, eq⟩
  · split at eq
    · cases eq
    · obtain ⟨_, -, same⟩ := Option.map_eq_some_iff.1 eq
      cases same
  · split at eq
    · cases eq
    · obtain ⟨⟨fields, _⟩, -, same⟩ := Option.map_eq_some_iff.1 eq
      have object := congrArg Prod.fst same
      unfold Json.object at object
      split at object <;> cases object
  · cases word eq
  · cases word eq
  · cases word eq
  · exact .inr eq

theorem isSpace_of_digit {c : Char} (digit : isAsciiDigit c = true) : isSpace c = false := by
  by_contra space
  rw [Bool.not_eq_false] at space
  simp only [isSpace, Bool.or_eq_true, beq_iff_eq] at space
  obtain ((rfl | rfl) | rfl) | rfl := space <;> cases digit

/-- A number stands for itself, with or without a sign. -/
theorem isText_of_readNumber {text : List Char} {d : Document}
    (number : readNumber false text = some (d, [])) (depth : Nat) :
    IsText (readValue (depth + 1)) text d := by
  obtain ⟨c, cs, rfl, digit⟩ := exists_of_readNumber number
  refine ⟨⟨c, cs, rfl, isSpace_of_digit digit, ?_⟩, fun rest closed => ?_⟩
  · rintro rfl
    cases digit
  · rw [List.cons_append, readValue_of_digit digit]
    exact readNumber_append closed number

theorem isText_of_readNumber_negative {text : List Char} {d : Document}
    (number : readNumber true text = some (d, [])) (depth : Nat) :
    IsText (readValue (depth + 1)) ('-' :: text) d :=
  ⟨⟨'-', text, rfl, rfl, by decide⟩, fun _ closed => readNumber_append closed number⟩

theorem isText_float {x : Float} (back : FloatReadsBack x) (depth : Nat) :
    IsText (readValue (depth + 1)) (numberText x).toList (.float x) := by
  rcases readNumber_of_readValue back with ⟨cs, text, number⟩ | number
  · rw [text]
    exact isText_of_readNumber_negative number depth
  · exact isText_of_readNumber number depth

theorem isText_integer {n : Int} (low : -2 ^ 63 ≤ n) (high : n < 2 ^ 64) (depth : Nat) :
    IsText (readValue (depth + 1)) (toString n).toList (.integer n) := by
  cases n with
  | ofNat n =>
    have text : (toString (Int.ofNat n)).toList = Nat.toDigits 10 n := Nat.toList_repr
    have fits : n ≤ maxUInt64 := Nat.le_of_lt_succ (Int.ofNat_lt.1 high)
    have value : NumberText.toDocument ⟨false, Nat.toDigits 10 n, [], none⟩ = .integer n := by
      simp [NumberText.toDocument, naturalOf_toDigits, fits]
    rw [text]
    exact isText_of_readNumber (value ▸ readNumber_toDigits false n) depth
  | negSucc n =>
    have text : (toString (Int.negSucc n)).toList = '-' :: Nat.toDigits 10 (n + 1) := by
      show ("-" ++ Nat.repr (n + 1)).toList = _
      rw [String.toList_append, Nat.toList_repr]
      rfl
    have fits : n ≤ maxInt64 := by
      unfold maxInt64
      omega
    have value : NumberText.toDocument ⟨true, Nat.toDigits 10 (n + 1), [], none⟩ =
        .integer (.negSucc n) := by
      simp [NumberText.toDocument, naturalOf_toDigits, fits, Int.negSucc_eq, Int.add_comm]
    rw [text]
    exact isText_of_readNumber_negative (value ▸ readNumber_toDigits true (n + 1)) depth

/-! ### Lists of values -/

theorem IsText.skip {value : List Char → Option (Document × List Char)} {text : List Char}
    {d : Document} (h : IsText value text d) (rest : List Char) :
    skip (text ++ rest) = text ++ rest := by
  obtain ⟨c, more, rfl, space, -⟩ := h.begins
  exact List.dropWhile_cons_of_neg (by simp [space])

/-- Texts with commas between them. -/
def joined : List (List Char) → List Char
  | [] => []
  | [text] => text
  | text :: texts => text ++ ',' :: joined texts

theorem joined_cons_cons (text next : List Char) (texts : List (List Char)) :
    joined (text :: next :: texts) = text ++ ',' :: joined (next :: texts) := rfl

theorem joined_char_cons (c : Char) (text : List Char) (texts : List (List Char)) :
    joined ((c :: text) :: texts) = c :: joined (text :: texts) := by
  cases texts <;> rfl

theorem length_le_length_joined {text : List Char} {texts : List (List Char)} (mem : text ∈ texts) :
    text.length ≤ (joined texts).length := by
  fun_induction joined texts with
  | case1 => cases mem
  | case2 => rw [List.mem_singleton.1 mem]
  | case3 first texts _ ih =>
    rw [List.length_append, List.length_cons]
    rcases List.mem_cons.1 mem with rfl | mem
    · omega
    · have rest := ih mem
      omega

theorem count_le_length_joined {texts : List (List Char)} (some : ∀ text ∈ texts, text ≠ []) :
    texts.length ≤ (joined texts).length := by
  fun_induction joined texts with
  | case1 => exact Nat.le_refl 0
  | case2 text => exact List.length_pos_iff.2 (some text List.mem_cons_self)
  | case3 first texts _ ih =>
    have rest := ih fun text mem => some text (List.mem_cons_of_mem _ mem)
    rw [List.length_append, List.length_cons, List.length_cons]
    omega

/-- A field with its name. -/
def fieldText (field : String × Document) : List Char :=
  (jsonQuoted field.1).toList ++ ':' :: (write field.2).toList

theorem toList_writeItems (items : List Document) :
    (writeItems items).toList = joined (items.map fun d => (write d).toList) := by
  induction items with
  | nil => rfl
  | cons d items ih =>
    cases items with
    | nil => rfl
    | cons next items => simp_all [writeItems, joined_cons_cons]

theorem toList_writeFields (fields : List (String × Document)) :
    (writeFields fields).toList = joined (fields.map fieldText) := by
  induction fields with
  | nil => rfl
  | cons field fields ih =>
    cases fields with
    | nil => simp [writeFields, joined, fieldText]
    | cons next fields => simp_all [writeFields, joined_cons_cons, fieldText]

theorem toList_write_array (items : List Document) : (write (.array items)).toList =
    '[' :: (joined (items.map fun d => (write d).toList) ++ [']']) := by
  simp [write, toList_writeItems]

theorem toList_write_table (fields : List (String × Document)) :
    (write (.table fields)).toList = '{' :: (joined (fields.map fieldText) ++ ['}']) := by
  simp [write, toList_writeFields]

section
variable {value : List Char → Option (Document × List Char)}

theorem readItems_joined (d : Document) (items : List Document)
    (each : ∀ e ∈ d :: items, IsText value (write e).toList e) {fuel : Nat}
    (enough : items.length < fuel) (rest : List Char) :
    readItems value fuel (joined ((d :: items).map fun e => (write e).toList) ++ ']' :: rest) =
      some (d :: items, rest) := by
  induction items generalizing d fuel with
  | nil =>
    obtain ⟨fuel, rfl⟩ := Nat.exists_eq_add_of_lt enough
    have first := each d List.mem_cons_self
    rw [List.map_singleton, joined, readItems, first.skip, first.read _ (by simp [Closed])]
    rfl
  | cons next items ih =>
    obtain ⟨fuel, rfl⟩ := Nat.exists_eq_add_of_lt enough
    have first := each d List.mem_cons_self
    have others := ih next (fun e mem => each e (List.mem_cons_of_mem _ mem))
      (show items.length < (next :: items).length + fuel by simp; omega)
    rw [List.map_cons, List.map_cons, joined_cons_cons, List.append_assoc, List.cons_append,
      readItems, first.skip, first.read _ (by simp [Closed])]
    show (readItems value _ _).bind _ = _
    rw [List.map_cons] at others
    rw [others]
    rfl

theorem fieldText_append (field : String × Document) (rest : List Char) :
    fieldText field ++ rest = '"' :: (field.1.toList.flatMap jsonEscape ++
      '"' :: ':' :: ((write field.2).toList ++ rest)) := by
  simp [fieldText, jsonQuoted]

theorem readField_fieldText {field : String × Document}
    (h : IsText value (write field.2).toList field.2) {rest : List Char} (closed : Closed rest) :
    readField value (fieldText field ++ rest) = some ((some field.1, field.2), rest) := by
  rw [fieldText_append, readField, string?_quoted]
  show (value (skip _)).bind _ = _
  rw [h.skip, h.read rest closed]
  rfl

theorem skip_fieldText (field : String × Document) (rest : List Char) :
    skip (fieldText field ++ rest) = fieldText field ++ rest := by
  rw [fieldText_append]
  exact List.dropWhile_cons_of_neg (by decide)

theorem readFields_joined (field : String × Document) (fields : List (String × Document))
    (each : ∀ e ∈ field :: fields, IsText value (write e.2).toList e.2) {fuel : Nat}
    (enough : fields.length < fuel) (rest : List Char) :
    readFields value fuel (joined ((field :: fields).map fieldText) ++ '}' :: rest) =
      some ((field :: fields).map fun e => (some e.1, e.2), rest) := by
  induction fields generalizing field fuel with
  | nil =>
    obtain ⟨fuel, rfl⟩ := Nat.exists_eq_add_of_lt enough
    have first := each field List.mem_cons_self
    rw [List.map_singleton, joined, readFields, skip_fieldText,
      readField_fieldText first (by simp [Closed])]
    rfl
  | cons next fields ih =>
    obtain ⟨fuel, rfl⟩ := Nat.exists_eq_add_of_lt enough
    have first := each field List.mem_cons_self
    have others := ih next (fun e mem => each e (List.mem_cons_of_mem _ mem))
      (show fields.length < (next :: fields).length + fuel by simp; omega)
    rw [List.map_cons, List.map_cons, joined_cons_cons, List.append_assoc, List.cons_append,
      readFields, skip_fieldText, readField_fieldText first (by simp [Closed])]
    show (readFields value _ _).bind _ = _
    rw [List.map_cons] at others
    rw [others]
    rfl

end

/-! ### Documents -/

/-- Everything in the document has a JSON text, and the doubles are read back from theirs. -/
abbrev IsJson (d : Document) : Prop := d.Holds FloatReadsBack False

theorem readValue_array {c : Char} (space : isSpace c = false) (bracket : c ≠ ']') (depth : Nat)
    (cs : List Char) : readValue (depth + 1) ('[' :: c :: cs) =
      (readItems (readValue depth) ((c :: cs).length + 1) (c :: cs)).map fun (items, rest) =>
        (.array items, rest) := by
  have same : skip (c :: cs) = c :: cs := List.dropWhile_cons_of_neg (by simp [space])
  rw [readValue, same]
  split
  · next closing =>
    cases closing
    contradiction
  · rfl

theorem readValue_table (depth : Nat) (cs : List Char) :
    readValue (depth + 1) ('{' :: '"' :: cs) =
      (readFields (readValue depth) (('"' :: cs).length + 1) ('"' :: cs)).map
        fun (fields, rest) => (object fields, rest) :=
  rfl

theorem object_map_some (fields : List (String × Document)) :
    object (fields.map fun e => (some e.1, e.2)) = .table fields := by
  rw [object, mapM_map_eq_some]
  exact fun _ => rfl

theorem isText_array {items : List Document} {depth : Nat}
    (each : ∀ d ∈ items, IsText (readValue depth) (write d).toList d) :
    IsText (readValue (depth + 1)) (write (.array items)).toList (.array items) := by
  rw [toList_write_array]
  refine ⟨⟨'[', _, rfl, rfl, by decide⟩, fun rest _ => ?_⟩
  rw [List.cons_append, List.append_assoc, List.singleton_append]
  cases items with
  | nil => rfl
  | cons d items =>
    have texts : ∀ text ∈ (d :: items).map fun d => (write d).toList, text ≠ [] := by
      refine List.forall_mem_map.2 fun e mem => ?_
      obtain ⟨c, more, first, -⟩ := (each e mem).begins
      exact first ▸ List.cons_ne_nil c more
    have count := count_le_length_joined texts
    have read (fuel : Nat) (enough : items.length < fuel) :=
      readItems_joined d items each enough rest
    obtain ⟨c, more, first, space, bracket⟩ := (each d List.mem_cons_self).begins
    rw [List.map_cons, first, joined_char_cons] at count read ⊢
    rw [List.cons_append, readValue_array space bracket, ← List.cons_append, read]
    · rfl
    · rw [List.length_append]
      rw [List.length_cons, List.length_map] at count
      omega

theorem isText_table {fields : List (String × Document)} {depth : Nat}
    (each : ∀ e ∈ fields, IsText (readValue depth) (write e.2).toList e.2) :
    IsText (readValue (depth + 1)) (write (.table fields)).toList (.table fields) := by
  rw [toList_write_table]
  refine ⟨⟨'{', _, rfl, rfl, by decide⟩, fun rest _ => ?_⟩
  rw [List.cons_append, List.append_assoc, List.singleton_append]
  cases fields with
  | nil => rfl
  | cons field fields =>
    have texts : ∀ text ∈ (field :: fields).map fieldText, text ≠ [] :=
      List.forall_mem_map.2 fun e mem => by simp [fieldText]
    have count := count_le_length_joined texts
    have read (fuel : Nat) (enough : fields.length < fuel) :=
      readFields_joined field fields each enough rest
    obtain ⟨more, first⟩ : ∃ more, fieldText field = '"' :: more := by
      rw [← List.append_nil (fieldText field), fieldText_append]
      exact ⟨_, rfl⟩
    rw [List.map_cons, first, joined_char_cons] at count read ⊢
    rw [List.cons_append, readValue_table, ← List.cons_append, read]
    · exact congrArg (fun d => some (d, rest)) (object_map_some _)
    · rw [List.length_append]
      rw [List.length_cons, List.length_map] at count
      omega

theorem isText_string (s : String) (depth : Nat) :
    IsText (readValue (depth + 1)) (write (.string s)).toList (.string s) := by
  have text : (write (.string s)).toList = '"' :: (s.toList.flatMap jsonEscape ++ ['"']) := by
    simp [write, jsonQuoted]
  rw [text]
  refine ⟨⟨'"', _, rfl, rfl, by decide⟩, fun rest _ => ?_⟩
  rw [List.cons_append, List.append_assoc, List.singleton_append, readValue, string?_quoted]
  rfl

theorem isText_write {d : Document} (h : IsJson d) {depth : Nat}
    (enough : (write d).toList.length < depth) : IsText (readValue depth) (write d).toList d := by
  induction h generalizing depth with obtain ⟨depth, rfl⟩ := Nat.exists_eq_add_of_lt enough
  | null => exact ⟨⟨'n', _, rfl, rfl, by decide⟩, fun rest _ => rfl⟩
  | bool b =>
    cases b
    · exact ⟨⟨'f', _, rfl, rfl, by decide⟩, fun rest _ => rfl⟩
    · exact ⟨⟨'t', _, rfl, rfl, by decide⟩, fun rest _ => rfl⟩
  | integer low high => exact isText_integer low high _
  | float back => exact isText_float back _
  | string s => exact isText_string s _
  | dateTime loose => exact loose.elim
  | unusable loose => exact loose.elim
  | @array items _ ih =>
    refine isText_array fun d mem => ih d mem ?_
    have part := length_le_length_joined (List.mem_map_of_mem (f := fun d => (write d).toList) mem)
    rw [toList_write_array, List.length_cons, List.length_append]
    omega
  | @table fields _ ih =>
    refine isText_table fun e mem => ih e mem ?_
    have part := length_le_length_joined (List.mem_map_of_mem (f := fieldText) mem)
    rw [fieldText, List.length_append, List.length_cons] at part
    rw [toList_write_table, List.length_cons, List.length_append]
    omega

/-- What is written is read back. -/
theorem read?_write {d : Document} (h : IsJson d) : read? (write d).toList = some d := by
  have text := isText_write h (Nat.lt_succ_self _)
  have start := text.skip []
  have read := text.read [] nofun
  rw [List.append_nil] at start read
  rw [read?, start, read]
  rfl

/-- A double that its own digits miss. -/
example : numberText 10.957860598549463 = "10.957860598549463" ∧
    NumberText.toFloat? ⟨false, ['1', '0'], "957860598549463".toList, none⟩ ≠
      some 10.957860598549463 := by
  decide +kernel

end MeterSight.Json
