import MeterSight.Proofs.FiniteDocument

/-!
# The normal form of settings

Settings are written as the normal form of the document that they were read from. There all known
fields of a record stand under their names and in order, those that were left out with the value
that this means, and no others.
-/
namespace MeterSight

/-! ### Normal forms -/

/-- A known field of a record, with the value that leaving it out means and the normal form of any
other. -/
structure FieldForm where
  name : String
  absent : Document
  form : Document → Document

/-- The field with the value that is given for it. -/
def FieldForm.entry (g : FieldForm) (given : Option Document) : String × Document :=
  (g.name, (given.map g.form).getD g.absent)

namespace Document

/-- A record with all its fields. -/
def filled (forms : List FieldForm) : Document → Document
  | .table fields =>
    .table (forms.map fun g => g.entry ((fields.find? fun e => e.1 = g.name).map Prod.snd))
  | .array items => .table (forms.mapIdx fun i g => g.entry items[i]?)
  | _ => .table (forms.map fun g => g.entry none)

/-- An array with the normal form of every item. -/
def eachItem (form : Document → Document) : Document → Document
  | .array items => .array (items.map form)
  | d => d

/-- Null, or the normal form of anything else. -/
def orNull (form : Document → Document) : Document → Document
  | .null => .null
  | d => form d

/-- A number as one with a fraction. -/
def pointed : Document → Document
  | .integer n => .float (Float.ofInt n)
  | d => d

/-- Next to the others a field says nothing to a record: the record does not know it, or there is no
other of its name and its value is what leaving it out means. -/
def IsSpare (forms : List FieldForm) (others : List (String × Document)) (name : String)
    (d : Document) : Prop :=
  ∀ g ∈ forms, g.name = name → g.form d = g.absent ∧ ∀ e ∈ others, e.1 ≠ name

theorem filled_insert {forms : List FieldForm} {before after : List (String × Document)}
    {name : String} {d : Document} (spare : IsSpare forms (before ++ after) name d) :
    filled forms (.table (before ++ (name, d) :: after)) =
      filled forms (.table (before ++ after)) := by
  refine congrArg table (List.map_congr_left fun g mem => ?_)
  by_cases known : g.name = name
  · obtain ⟨same, sole⟩ := spare g mem known
    have alone : (before ++ after).find? (fun e => e.1 = g.name) = none :=
      List.find?_eq_none.2 fun e own => by simpa [known] using sole e own
    rw [List.find?_append, Option.or_eq_none_iff] at alone
    rw [List.find?_append, alone.1, List.find?_append, alone.1, alone.2]
    simp [FieldForm.entry, known, same]
  · simp [List.find?_append, Ne.symm known]

end Document

/-- A field that is null where there is no value for it. -/
def FieldForm.optional (name : String) (form : Document → Document) : FieldForm :=
  ⟨name, .null, .orNull form⟩

/-- The name alone. -/
def RecognizerKind.normal : Document → Document
  | .table [(name, _)] => .string name
  | d => d

open Document

def DriftSettings.normal : Document → Document :=
  filled [.optional "range" id, .optional "x" id, .optional "y" id]

def BoxSettings.normal : Document → Document :=
  filled [⟨"x1", .integer (-1), id⟩, ⟨"y1", .integer (-1), id⟩, ⟨"x2", .integer (-1), id⟩,
    ⟨"y2", .integer (-1), id⟩]

def RegionSettings.normal : Document → Document :=
  filled [.optional "identifier" id, .optional "confidence_id" id, .optional "unit" id,
    ⟨"scaler", .integer 0, id⟩, ⟨"digit", .bool false, id⟩, .optional "box" BoxSettings.normal]

/-- A record without a kind is no recognizer, whatever stands for the kind then. -/
def RecognizerSettings.normal : Document → Document :=
  filled [⟨"type", .null, RecognizerKind.normal⟩, .optional "gamma" pointed,
    .optional "gamma_min" id, .optional "gamma_max" id, .optional "language" id,
    .optional "tesseract" id, .optional "tessdata" id,
    ⟨"boundingboxes", .array [], eachItem RegionSettings.normal⟩]

def Settings.normal : Document → Document :=
  filled [.optional "file" id, ⟨"rotate", .float 0.0, pointed⟩, ⟨"debug", .bool false, id⟩,
    .optional "autofix" DriftSettings.normal,
    ⟨"recognizer", .array [], eachItem RecognizerSettings.normal⟩,
    ⟨"boundingboxes", .array [], eachItem RegionSettings.normal⟩]

/-! ### Readers and the normal form of what they read -/

/-- What is read is written as the normal form of the document. -/
def Document.Agrees {α : Type} (read : Document → Option α) (form : Document → Document)
    (write : α → Document) : Prop :=
  ∀ d a, read d = some a → form d = write a

namespace Document
variable {α : Type} {read : Document → Option α} {form : Document → Document} {write : α → Document}

theorem Agrees.nullable (h : Agrees read form write) :
    Agrees (Field.nullable read) (orNull form) (.ofOption write) := by
  intro d o eq
  cases d with
  | null =>
    cases eq
    rfl
  | _ =>
    obtain ⟨a, found, rfl⟩ := Option.map_eq_some_iff.1 eq
    exact h _ _ found

theorem Agrees.list (h : Agrees read form write) :
    Agrees (list? read) (eachItem form) fun l => .array (l.map write) := by
  intro d l eq
  cases d with
  | array items =>
    have related := mapM_eq_some_iff_forall₂.1 eq
    have same : List.Forall₂ (fun d e => d = e) (items.map form) (l.map write) :=
      List.forall₂_map_left_iff.2 (List.forall₂_map_right_iff.2 (related.imp h))
    exact congrArg array (List.forall₂_eq_eq_eq ▸ same)
  | _ => cases eq

theorem agrees_bool : Agrees bool? id .bool := by
  intro d b eq
  cases d <;> cases eq
  rfl

theorem agrees_string : Agrees string? id .string := by
  intro d s eq
  cases d <;> cases eq
  rfl

theorem agrees_float : Agrees float? pointed .float := by
  intro d x eq
  cases d <;> cases eq <;> rfl

theorem eq_integer_of_integerIn? {low high : Int} {d : Document} {n : Int}
    (eq : integerIn? low high d = some n) : d = .integer n ∧ low ≤ n ∧ n ≤ high := by
  cases d with
  | integer m =>
    obtain ⟨bounds, same⟩ := Option.ite_none_right_eq_some.1 eq
    cases same
    exact ⟨rfl, bounds⟩
  | _ => cases eq

theorem agrees_int64 : Agrees int64? id fun n => .integer n.toInt := by
  intro d n eq
  obtain ⟨m, found, rfl⟩ := Option.map_eq_some_iff.1 eq
  obtain ⟨rfl, low, high⟩ := eq_integer_of_integerIn? found
  exact congrArg integer (Int64.toInt_ofInt_of_le (by omega) (by omega)).symm

theorem agrees_int32 : Agrees int32? id fun n => .integer n.toInt := by
  intro d n eq
  obtain ⟨m, found, rfl⟩ := Option.map_eq_some_iff.1 eq
  obtain ⟨rfl, low, high⟩ := eq_integer_of_integerIn? found
  exact congrArg integer (Int32.toInt_ofInt_of_le (by omega) (by omega)).symm

theorem agrees_uint8 : Agrees uint8? id fun n => .integer n.toNat := by
  intro d n eq
  obtain ⟨m, found, rfl⟩ := Option.map_eq_some_iff.1 eq
  obtain ⟨rfl, low, high⟩ := eq_integer_of_integerIn? found
  have same : ((UInt8.ofNat m.toNat).toNat : Int) = m := by
    rw [UInt8.toNat_ofNat_of_lt' (show m.toNat < 256 by omega), Int.toNat_of_nonneg low]
  exact congrArg integer same.symm

end Document

theorem RecognizerKind.name_of_ofName? {name : String} {kind : RecognizerKind}
    (eq : ofName? name = some kind) : kind.name = name :=
  of_decide_eq_true (List.find?_some (p := fun k : RecognizerKind => k.name = name) eq)

theorem RecognizerKind.normal_eq (format : DocumentFormat) :
    Agrees (ofDocument? format) normal fun kind => .string kind.name := by
  intro d kind eq
  unfold ofDocument? at eq
  split at eq
  · exact congrArg Document.string (name_of_ofName? eq).symm
  · split at eq
    · exact congrArg Document.string (name_of_ofName? eq).symm
    · exact congrArg Document.string (name_of_ofName? eq).symm
    · exact congrArg Document.string (name_of_ofName? eq).symm
    · cases eq
  · cases eq

/-- The field is written in the given form. -/
structure FieldForm.Suits {α : Type} (g : FieldForm) (f : Field α) (write : α → Document) :
    Prop where
  name : g.name = f.name
  read : Agrees f.read g.form write
  absent : ∀ {a}, f.absent = some a → g.absent = write a
  ended : ∀ {a}, f.ended = some a → g.absent = write a

namespace FieldForm
variable {α : Type} {read : Document → Option α} {form : Document → Document} {write : α → Document}

theorem suits_required (name : String) (absent : Document) (h : Agrees read form write) :
    Suits ⟨name, absent, form⟩ (.required name read) write := ⟨rfl, h, nofun, nofun⟩

theorem suits_withDefault (name : String) (value : α) (h : Agrees read form write) :
    Suits ⟨name, write value, form⟩ (.withDefault name read value) write := by
  have same {a : α} (eq : some value = some a) : write value = write a :=
    congrArg write (Option.some.inj eq)
  exact ⟨rfl, h, same, same⟩

theorem suits_optional (name : String) (h : Agrees read form write) :
    Suits (optional name form) (.optional name read) (.ofOption write) := by
  refine ⟨rfl, h.nullable, fun eq => ?_, nofun⟩
  cases eq
  rfl

theorem suits_omissible (name : String) (h : Agrees read form write) :
    Suits (optional name form) (.omissible name read) (.ofOption write) := by
  refine ⟨rfl, h.nullable, fun eq => ?_, fun eq => ?_⟩ <;> cases eq <;> rfl

end FieldForm

/-- The reader takes the fields with the given forms, from a table by their names and from an array
in order. What it makes of them is written as tells. -/
structure RecordReader.Fills {α : Type} (p : RecordReader α) (forms : List FieldForm)
    (written : α → List (String × Document) → Prop) : Prop where
  table : ∀ {fields a rest}, p (.table fields) = some (a, rest) → rest = .table fields ∧
    written a (forms.map fun g =>
      g.entry ((fields.find? fun e => e.1 = g.name).map Prod.snd))
  row : ∀ {items a rest}, p (.row items) = some (a, rest) → rest = .row (items.drop forms.length) ∧
    written a (forms.mapIdx fun i g => g.entry items[i]?)

namespace RecordReader
variable {α β : Type} {p : RecordReader (α → β)} {f : Field α} {g : FieldForm}
  {forms : List FieldForm} {write : α → Document}

theorem andField_eq_some {source rest : RecordSource} {b : β}
    (eq : p.andField f source = some (b, rest)) :
    ∃ make a others, p source = some (make, others) ∧ field f others = some (a, rest) ∧
      b = make a := by
  obtain ⟨⟨make, others⟩, made, eq⟩ := Option.bind_eq_some_iff.1 eq
  obtain ⟨⟨a, rest⟩, found, eq⟩ := Option.bind_eq_some_iff.1 eq
  cases eq
  exact ⟨make, a, others, made, found, rfl⟩

theorem entry_of_field_table (suits : g.Suits f write) {fields : List (String × Document)} {a : α}
    {rest : RecordSource} (eq : field f (.table fields) = some (a, rest)) :
    rest = .table fields ∧
      g.entry ((fields.find? fun e => e.1 = g.name).map Prod.snd) = (g.name, write a) := by
  rw [← List.head?_filter]
  rw [field, ← suits.name] at eq
  split at eq
  · next none =>
    obtain ⟨_, absent, same⟩ := Option.map_eq_some_iff.1 eq
    cases same
    rw [none]
    exact ⟨rfl, congrArg _ (suits.absent absent)⟩
  · next e one =>
    obtain ⟨_, read, same⟩ := Option.map_eq_some_iff.1 eq
    cases same
    rw [one]
    exact ⟨rfl, congrArg _ (suits.read _ _ read)⟩
  · cases eq

theorem entry_of_field_row (suits : g.Suits f write) {items : List Document} {a : α}
    {rest : RecordSource} (eq : field f (.row items) = some (a, rest)) :
    rest = .row items.tail ∧ g.entry items.head? = (g.name, write a) := by
  cases items with
  | nil =>
    obtain ⟨_, ended, same⟩ := Option.map_eq_some_iff.1 eq
    cases same
    exact ⟨rfl, congrArg _ (suits.ended ended)⟩
  | cons item others =>
    obtain ⟨_, read, same⟩ := Option.map_eq_some_iff.1 eq
    cases same
    exact ⟨rfl, congrArg _ (suits.read _ _ read)⟩

theorem fills_start (make : α) :
    Fills (start make) [] fun a entries => a = make ∧ entries = [] := by
  constructor <;> intro _ a rest eq <;> cases eq
  · exact ⟨rfl, rfl, rfl⟩
  · exact ⟨rfl, rfl, rfl⟩

theorem Fills.andField {written : (α → β) → List (String × Document) → Prop}
    (h : Fills p forms written) (suits : g.Suits f write) :
    Fills (p.andField f) (forms ++ [g]) fun b entries =>
      ∃ make a first, written make first ∧ b = make a ∧ entries = first ++ [(g.name, write a)] where
  table eq := by
    obtain ⟨make, a, others, made, found, rfl⟩ := andField_eq_some eq
    obtain ⟨rfl, first⟩ := h.table made
    obtain ⟨rfl, last⟩ := entry_of_field_table suits found
    rw [List.map_append, List.map_singleton, last]
    exact ⟨rfl, make, a, _, first, rfl, rfl⟩
  row eq := by
    obtain ⟨make, a, others, made, found, rfl⟩ := andField_eq_some eq
    obtain ⟨rfl, first⟩ := h.row made
    obtain ⟨rfl, last⟩ := entry_of_field_row suits found
    rw [List.head?_drop] at last
    rw [List.mapIdx_concat, last, List.length_append, List.tail_drop]
    exact ⟨rfl, make, a, _, first, rfl, rfl⟩

theorem Fills.run {p : RecordReader α} {written : α → List (String × Document) → Prop}
    (h : Fills p forms written) {format : DocumentFormat} {d : Document} {a : α}
    (eq : p.run format d = some a) :
    ∃ entries, filled forms d = .table entries ∧ written a entries := by
  cases d with
  | table fields =>
    obtain ⟨⟨a, rest⟩, read, rfl⟩ := Option.map_eq_some_iff.1 eq
    exact ⟨_, rfl, (h.table read).2⟩
  | dateTime =>
    obtain ⟨⟨a, rest⟩, read, rfl⟩ := Option.map_eq_some_iff.1 eq
    exact ⟨_, rfl, (h.table read).2⟩
  | array items =>
    have ⟨rest, read⟩ : ∃ rest, p (.row items) = some (a, rest) := by
      rw [RecordReader.run] at eq
      split at eq
      · next found => exact ⟨_, Option.some.inj eq ▸ found⟩
      · next found =>
        split at eq
        · cases eq
        · exact ⟨_, Option.some.inj eq ▸ found⟩
      · cases eq
    exact ⟨_, rfl, (h.row read).2⟩
  | _ => cases eq

end RecordReader

/-! ### The settings -/

open FieldForm RecordReader

variable {format : DocumentFormat}

theorem DriftSettings.normal_eq : Agrees (ofDocument? format) normal toDocument := by
  intro d s eq
  obtain ⟨entries, filled, written⟩ := Fills.run
    ((((fills_start mk).andField (suits_optional "range" agrees_int64)).andField
      (suits_optional "x" agrees_int64)).andField (suits_optional "y" agrees_int64)) eq
  obtain ⟨_, y, _, written, rfl, rfl⟩ := written
  obtain ⟨_, x, _, written, rfl, rfl⟩ := written
  obtain ⟨_, range, _, ⟨rfl, rfl⟩, rfl, rfl⟩ := written
  exact filled

theorem BoxSettings.normal_eq : Agrees (ofDocument? format) normal toDocument := by
  have coordinate (name : String) := suits_withDefault name (-1) agrees_int64
  intro d s eq
  obtain ⟨entries, filled, written⟩ := Fills.run
    (((((fills_start mk).andField (coordinate "x1")).andField (coordinate "y1")).andField
      (coordinate "x2")).andField (coordinate "y2")) eq
  obtain ⟨_, y2, _, written, rfl, rfl⟩ := written
  obtain ⟨_, x2, _, written, rfl, rfl⟩ := written
  obtain ⟨_, y1, _, written, rfl, rfl⟩ := written
  obtain ⟨_, x1, _, ⟨rfl, rfl⟩, rfl, rfl⟩ := written
  exact filled

theorem RegionSettings.normal_eq : Agrees (ofDocument? format) normal toDocument := by
  have text (name : String) := suits_optional name agrees_string
  intro d s eq
  obtain ⟨entries, filled, written⟩ := Fills.run
    (((((((fills_start mk).andField (text "identifier")).andField (text "confidence_id")).andField
      (text "unit")).andField (suits_withDefault "scaler" 0 agrees_int32)).andField
      (suits_withDefault "digit" false agrees_bool)).andField
      (suits_optional "box" BoxSettings.normal_eq)) eq
  obtain ⟨_, box, _, written, rfl, rfl⟩ := written
  obtain ⟨_, digit, _, written, rfl, rfl⟩ := written
  obtain ⟨_, scaler, _, written, rfl, rfl⟩ := written
  obtain ⟨_, unit, _, written, rfl, rfl⟩ := written
  obtain ⟨_, confidenceId, _, written, rfl, rfl⟩ := written
  obtain ⟨_, identifier, _, ⟨rfl, rfl⟩, rfl, rfl⟩ := written
  exact filled

theorem RecognizerSettings.normal_eq : Agrees (ofDocument? format) normal toDocument := by
  have text (name : String) := suits_optional name agrees_string
  have level (name : String) := suits_optional name agrees_uint8
  intro d s eq
  obtain ⟨entries, filled, written⟩ := Fills.run
    (((((((((fills_start mk).andField
      (suits_required "type" .null (RecognizerKind.normal_eq format))).andField
      (suits_optional "gamma" agrees_float)).andField (level "gamma_min")).andField
      (level "gamma_max")).andField (text "language")).andField (text "tesseract")).andField
      (text "tessdata")).andField
      (suits_withDefault "boundingboxes" [] RegionSettings.normal_eq.list)) eq
  obtain ⟨_, regions, _, written, rfl, rfl⟩ := written
  obtain ⟨_, dataDirectory, _, written, rfl, rfl⟩ := written
  obtain ⟨_, executable, _, written, rfl, rfl⟩ := written
  obtain ⟨_, language, _, written, rfl, rfl⟩ := written
  obtain ⟨_, white, _, written, rfl, rfl⟩ := written
  obtain ⟨_, black, _, written, rfl, rfl⟩ := written
  obtain ⟨_, gamma, _, written, rfl, rfl⟩ := written
  obtain ⟨_, kind, _, ⟨rfl, rfl⟩, rfl, rfl⟩ := written
  exact filled

theorem Settings.normal_eq : Agrees (ofDocument? format) normal toDocument := by
  intro d s eq
  obtain ⟨entries, filled, written⟩ := Fills.run
    (((((((fills_start mk).andField (suits_optional "file" agrees_string)).andField
      (suits_withDefault "rotate" 0.0 agrees_float)).andField
      (suits_withDefault "debug" false agrees_bool)).andField
      (suits_omissible "autofix" DriftSettings.normal_eq)).andField
      (suits_withDefault "recognizer" [] RecognizerSettings.normal_eq.list)).andField
      (suits_withDefault "boundingboxes" [] RegionSettings.normal_eq.list)) eq
  obtain ⟨_, regions, _, written, rfl, rfl⟩ := written
  obtain ⟨_, recognizers, _, written, rfl, rfl⟩ := written
  obtain ⟨_, drift, _, written, rfl, rfl⟩ := written
  obtain ⟨_, debug, _, written, rfl, rfl⟩ := written
  obtain ⟨_, rotation, _, written, rfl, rfl⟩ := written
  obtain ⟨_, file, _, ⟨rfl, rfl⟩, rfl, rfl⟩ := written
  exact filled

/-! ### Finite numbers -/

/-- The normal form of a finite document is finite. -/
def Document.KeepsFinite (form : Document → Document) : Prop :=
  ∀ d, d.IsFinite → (form d).IsFinite

/-- The field is finite wherever its value is. -/
def FieldForm.KeepsFinite (g : FieldForm) : Prop := g.absent.IsFinite ∧ Document.KeepsFinite g.form

namespace Document
variable {form : Document → Document}

theorem keepsFinite_id : KeepsFinite id := fun _ => id

theorem KeepsFinite.orNull (h : KeepsFinite form) : KeepsFinite (orNull form) := by
  intro d finite
  cases d with
  | null => exact .null
  | _ => exact h _ finite

theorem KeepsFinite.eachItem (h : KeepsFinite form) : KeepsFinite (eachItem form) := by
  intro d finite
  cases finite with
  | array each => exact .array (List.forall_mem_map.2 fun d mem => h d (each d mem))
  | _ => constructor <;> assumption

theorem keepsFinite_pointed : KeepsFinite pointed := by
  intro d finite
  cases finite with
  | integer low high => exact .float (isFinite_ofInt low high)
  | _ => constructor <;> assumption

theorem KeepsFinite.optional (h : KeepsFinite form) (name : String) :
    (FieldForm.optional name form).KeepsFinite := ⟨.null, h.orNull⟩

theorem isFinite_entry {g : FieldForm} (h : g.KeepsFinite) {given : Option Document}
    (finite : ∀ d ∈ given, d.IsFinite) : (g.entry given).2.IsFinite := by
  cases given with
  | none => exact h.1
  | some d => exact h.2 d (finite d rfl)

theorem keepsFinite_filled {forms : List FieldForm} (h : ∀ g ∈ forms, g.KeepsFinite) :
    KeepsFinite (filled forms) := by
  intro d finite
  cases finite with
  | table each =>
    refine .table (List.forall_mem_map.2 fun g mem => isFinite_entry (h g mem) fun d given => ?_)
    obtain ⟨e, found, rfl⟩ := Option.map_eq_some_iff.1 given
    exact each e (List.mem_of_find?_eq_some found)
  | array each =>
    refine .table fun e mem => ?_
    obtain ⟨i, bound, rfl⟩ := List.mem_mapIdx.1 mem
    exact isFinite_entry (h _ (List.getElem_mem _)) fun d found =>
      each d (List.mem_of_getElem? found)
  | _ => exact .table (List.forall_mem_map.2 fun g mem => isFinite_entry (h g mem) nofun)

end Document

theorem RecognizerKind.keepsFinite_normal : KeepsFinite normal := by
  intro d finite
  unfold normal
  split
  · exact .string _
  · exact finite

theorem DriftSettings.keepsFinite_normal : KeepsFinite normal :=
  keepsFinite_filled (by simp [keepsFinite_id.optional])

theorem BoxSettings.keepsFinite_normal : KeepsFinite normal := by
  have side (name : String) : FieldForm.KeepsFinite ⟨name, .integer (-1), id⟩ :=
    ⟨.integer (by decide) (by decide), keepsFinite_id⟩
  exact keepsFinite_filled (by simp [side])

theorem RegionSettings.keepsFinite_normal : KeepsFinite normal := by
  have scaler : FieldForm.KeepsFinite ⟨"scaler", .integer 0, id⟩ :=
    ⟨.integer (by decide) (by decide), keepsFinite_id⟩
  have digit : FieldForm.KeepsFinite ⟨"digit", .bool false, id⟩ := ⟨.bool false, keepsFinite_id⟩
  exact keepsFinite_filled
    (by simp [keepsFinite_id.optional, BoxSettings.keepsFinite_normal.optional, scaler, digit])

theorem FieldForm.keepsFinite_list {form : Document → Document} (h : Document.KeepsFinite form)
    (name : String) : FieldForm.KeepsFinite ⟨name, .array [], .eachItem form⟩ :=
  ⟨.array nofun, h.eachItem⟩

theorem RecognizerSettings.keepsFinite_normal : KeepsFinite normal := by
  have kind : FieldForm.KeepsFinite ⟨"type", .null, RecognizerKind.normal⟩ :=
    ⟨.null, RecognizerKind.keepsFinite_normal⟩
  exact keepsFinite_filled (by simp [kind, keepsFinite_id.optional, keepsFinite_pointed.optional,
    keepsFinite_list RegionSettings.keepsFinite_normal])

theorem Settings.keepsFinite_normal : KeepsFinite normal := by
  have rotation : FieldForm.KeepsFinite ⟨"rotate", .float 0.0, pointed⟩ :=
    ⟨.float (by decide), keepsFinite_pointed⟩
  have debug : FieldForm.KeepsFinite ⟨"debug", .bool false, id⟩ := ⟨.bool false, keepsFinite_id⟩
  exact keepsFinite_filled (by simp [rotation, debug, keepsFinite_id.optional,
    DriftSettings.keepsFinite_normal.optional, keepsFinite_list RegionSettings.keepsFinite_normal,
    keepsFinite_list RecognizerSettings.keepsFinite_normal])

end MeterSight
