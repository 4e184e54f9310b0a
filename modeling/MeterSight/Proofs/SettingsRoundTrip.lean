import MeterSight.Proofs.JsonText
import MeterSight.Proofs.NormalSettings

/-!
# The round trip of settings

Settings are read back from the document that they are written as, whatever is present in them, and
from its text wherever their doubles are read back from theirs. The document has every field, so
that left out fields, nulls and unknown names of a document that was read before do not come back.
-/
namespace MeterSight

/-! ### Values -/

theorem Field.nullable_ofOption {α : Type} {read : Document → Option α} {make : α → Document}
    (back : ∀ a, read (make a) = some a) (value : ∀ a, make a ≠ .null) (o : Option α) :
    nullable read (.ofOption make o) = some o := by
  cases o with
  | none => rfl
  | some a =>
    have read : (read (make a)).map some = some (some a) := by rw [back]; rfl
    rw [Document.ofOption, ← read, nullable]
    exact value a

namespace Document

theorem int64?_integer (n : Int64) : int64? (.integer n.toInt) = some n := by
  have low := n.le_toInt
  have high := n.toInt_lt
  rw [int64?, integerIn?, if_pos (by omega), Option.map_some, Int64.ofInt_toInt]

theorem int32?_integer (n : Int32) : int32? (.integer n.toInt) = some n := by
  have low := n.le_toInt
  have high := n.toInt_lt
  rw [int32?, integerIn?, if_pos (by omega), Option.map_some, Int32.ofInt_toInt]

theorem uint8?_integer (n : UInt8) : uint8? (.integer n.toNat) = some n := by
  have high := n.toNat_lt
  rw [uint8?, integerIn?, if_pos (by omega), Option.map_some, Int.toNat_natCast, UInt8.ofNat_toNat]

theorem list?_array {α : Type} {read : Document → Option α} {make : α → Document}
    (back : ∀ a, read (make a) = some a) (l : List α) :
    list? read (.array (l.map make)) = some l :=
  mapM_map_eq_some back l

end Document

theorem RecognizerKind.ofDocument?_string (format : DocumentFormat) (kind : RecognizerKind) :
    ofDocument? format (.string kind.name) = some kind :=
  ofName?_name kind

/-! ### Records that are read back -/

namespace RecordReader
variable {α β : Type} {p : RecordReader (α → β)} {f : Field α} {make : α → β} {a : α}
  {fields : List (String × Document)}

/-- All fields of a value are found in a table. -/
def Reads (p : RecordReader α) (fields : List (String × Document)) (a : α) : Prop :=
  p (.table fields) = some (a, .table fields)

theorem reads_start (make : α) : Reads (start make) fields make := rfl

theorem Reads.andField (h : Reads p fields make) {d : Document} (value : f.read d = some a)
    (entry : (fields.filter fun e => e.1 = f.name) = [(f.name, d)]) :
    Reads (p.andField f) fields (make a) := by
  have found : field f (.table fields) = some (a, .table fields) := by
    rw [field, entry]
    exact congrArg (Option.map (·, _)) value
  have made : p (.table fields) = some (make, .table fields) := h
  exact Option.bind_eq_some_iff.2 ⟨_, made, Option.bind_eq_some_iff.2 ⟨_, found, rfl⟩⟩

theorem Reads.run (format : DocumentFormat) {p : RecordReader α} (h : Reads p fields a) :
    run format p (.table fields) = some a := by
  rw [RecordReader.run, h]
  rfl

end RecordReader

open RecordReader

variable (format : DocumentFormat)

theorem DriftSettings.ofDocument?_toDocument (s : DriftSettings) :
    ofDocument? format s.toDocument = some s := by
  have number (o : Option Int64) :
      Field.nullable Document.int64? (.ofOption (fun n => .integer n.toInt) o) = some o :=
    Field.nullable_ofOption Document.int64?_integer nofun o
  obtain ⟨range, x, y⟩ := s
  refine Reads.run format ?_
  refine Reads.andField ?_ (number y) (by simp [Field.optional])
  refine Reads.andField ?_ (number x) (by simp [Field.optional])
  refine Reads.andField ?_ (number range) (by simp [Field.optional])
  exact reads_start mk

theorem BoxSettings.ofDocument?_toDocument (s : BoxSettings) :
    ofDocument? format s.toDocument = some s := by
  obtain ⟨x1, y1, x2, y2⟩ := s
  refine Reads.run format ?_
  refine Reads.andField ?_ (Document.int64?_integer y2) (by simp [Field.withDefault])
  refine Reads.andField ?_ (Document.int64?_integer x2) (by simp [Field.withDefault])
  refine Reads.andField ?_ (Document.int64?_integer y1) (by simp [Field.withDefault])
  refine Reads.andField ?_ (Document.int64?_integer x1) (by simp [Field.withDefault])
  exact reads_start mk

theorem Field.nullable_string (o : Option String) :
    nullable Document.string? (.ofOption .string o) = some o := by
  have back (s : String) : Document.string? (.string s) = some s := rfl
  exact nullable_ofOption back nofun o

theorem RegionSettings.ofDocument?_toDocument (s : RegionSettings) :
    ofDocument? format s.toDocument = some s := by
  obtain ⟨identifier, confidenceId, unit, scaler, digit, box⟩ := s
  have sides : Field.nullable (BoxSettings.ofDocument? format)
      (.ofOption BoxSettings.toDocument box) = some box :=
    Field.nullable_ofOption (BoxSettings.ofDocument?_toDocument format) nofun box
  refine Reads.run format ?_
  refine Reads.andField ?_ sides (by simp [Field.optional])
  refine Reads.andField (d := .bool digit) ?_ rfl (by simp [Field.withDefault])
  refine Reads.andField ?_ (Document.int32?_integer scaler) (by simp [Field.withDefault])
  refine Reads.andField ?_ (Field.nullable_string unit) (by simp [Field.optional])
  refine Reads.andField ?_ (Field.nullable_string confidenceId) (by simp [Field.optional])
  refine Reads.andField ?_ (Field.nullable_string identifier) (by simp [Field.optional])
  exact reads_start mk

theorem RecognizerSettings.ofDocument?_toDocument (s : RecognizerSettings) :
    ofDocument? format s.toDocument = some s := by
  have level (o : Option UInt8) :
      Field.nullable Document.uint8? (.ofOption (fun v => .integer v.toNat) o) = some o :=
    Field.nullable_ofOption Document.uint8?_integer nofun o
  have number (x : Float) : Document.float? (.float x) = some x := rfl
  obtain ⟨kind, gamma, black, white, language, executable, dataDirectory, regions⟩ := s
  have exponent : Field.nullable Document.float? (.ofOption .float gamma) = some gamma :=
    Field.nullable_ofOption number nofun gamma
  have list := Document.list?_array (RegionSettings.ofDocument?_toDocument format) regions
  refine Reads.run format ?_
  refine Reads.andField (d := .array (regions.map RegionSettings.toDocument)) ?_ list
    (by simp [Field.withDefault])
  refine Reads.andField ?_ (Field.nullable_string dataDirectory) (by simp [Field.optional])
  refine Reads.andField ?_ (Field.nullable_string executable) (by simp [Field.optional])
  refine Reads.andField ?_ (Field.nullable_string language) (by simp [Field.optional])
  refine Reads.andField ?_ (level white) (by simp [Field.optional])
  refine Reads.andField ?_ (level black) (by simp [Field.optional])
  refine Reads.andField ?_ exponent (by simp [Field.optional])
  refine Reads.andField (d := .string kind.name) ?_ (RecognizerKind.ofDocument?_string format kind)
    (by simp [Field.required])
  exact reads_start mk

/-- Settings are read back from the document that says the same with all fields present. -/
theorem Settings.ofDocument?_toDocument (s : Settings) :
    ofDocument? format s.toDocument = some s := by
  obtain ⟨file, rotation, debug, drift, recognizers, regions⟩ := s
  have window : Field.nullable (DriftSettings.ofDocument? format)
      (.ofOption DriftSettings.toDocument drift) = some drift :=
    Field.nullable_ofOption (DriftSettings.ofDocument?_toDocument format) nofun drift
  have owners := Document.list?_array (RecognizerSettings.ofDocument?_toDocument format) recognizers
  have list := Document.list?_array (RegionSettings.ofDocument?_toDocument format) regions
  refine Reads.run format ?_
  refine Reads.andField (d := .array (regions.map RegionSettings.toDocument)) ?_ list
    (by simp [Field.withDefault])
  refine Reads.andField (d := .array (recognizers.map RecognizerSettings.toDocument)) ?_ owners
    (by simp [Field.withDefault])
  refine Reads.andField ?_ window (by simp [Field.omissible])
  refine Reads.andField (d := .bool debug) ?_ rfl (by simp [Field.withDefault])
  refine Reads.andField (d := .float rotation) ?_ rfl (by simp [Field.withDefault])
  refine Reads.andField ?_ (Field.nullable_string file) (by simp [Field.optional])
  exact reads_start mk

/-! ### The doubles in settings -/

section
variable {P : Float → Prop} {loose : Prop}

namespace Document

@[simp] theorem holds_float_iff {x : Float} : (float x).Holds P loose ↔ P x :=
  ⟨fun | .float h => h, .float⟩

@[simp] theorem holds_array_iff {items : List Document} :
    (array items).Holds P loose ↔ ∀ d ∈ items, d.Holds P loose :=
  ⟨fun | .array h => h, .array⟩

@[simp] theorem holds_table_iff {fields : List (String × Document)} :
    (table fields).Holds P loose ↔ ∀ e ∈ fields, e.2.Holds P loose :=
  ⟨fun | .table h => h, .table⟩

@[simp] theorem holds_ofOption_iff {α : Type} {write : α → Document} {o : Option α} :
    (ofOption write o).Holds P loose ↔ ∀ a ∈ o, (write a).Holds P loose := by
  cases o with
  | none => exact ⟨nofun, fun _ => .null⟩
  | some a => exact ⟨fun holds _ same => Option.some.inj same ▸ holds, fun each => each a rfl⟩

attribute [simp] Holds.bool Holds.string

@[simp] theorem holds_int64 (n : Int64) : (integer n.toInt).Holds P loose := by
  have low := n.le_toInt
  have high := n.toInt_lt
  exact .integer (by omega) (by omega)

@[simp] theorem holds_int32 (n : Int32) : (integer n.toInt).Holds P loose := by
  have low := n.le_toInt
  have high := n.toInt_lt
  exact .integer (by omega) (by omega)

@[simp] theorem holds_uint8 (n : UInt8) : (integer n.toNat).Holds P loose := by
  have high := n.toNat_lt
  exact .integer (by omega) (by omega)

end Document

@[simp] theorem DriftSettings.holds_toDocument (s : DriftSettings) :
    s.toDocument.Holds P loose := by
  simp [toDocument]

@[simp] theorem BoxSettings.holds_toDocument (s : BoxSettings) : s.toDocument.Holds P loose := by
  simp [toDocument]

@[simp] theorem RegionSettings.holds_toDocument (s : RegionSettings) :
    s.toDocument.Holds P loose := by
  simp [toDocument]

@[simp] theorem RecognizerSettings.holds_toDocument_iff (s : RecognizerSettings) :
    s.toDocument.Holds P loose ↔ ∀ x ∈ s.gamma, P x := by
  simp [toDocument]

namespace Settings

/-- The rotation and the gamma exponents. -/
def doubles (s : Settings) : List Float := s.rotation :: s.recognizers.filterMap (·.gamma)

theorem holds_toDocument_iff (s : Settings) :
    s.toDocument.Holds P loose ↔ ∀ x ∈ s.doubles, P x := by
  have gammas : (∀ x ∈ s.recognizers.filterMap (·.gamma), P x) ↔
      ∀ r ∈ s.recognizers, ∀ x ∈ r.gamma, P x := by
    constructor
    · intro each r own x gamma
      exact each x (List.mem_filterMap.2 ⟨r, own, gamma⟩)
    · intro each x mem
      obtain ⟨r, own, gamma⟩ := List.mem_filterMap.1 mem
      exact each r own x gamma
  rw [doubles, List.forall_mem_cons, gammas]
  simp [toDocument]

end Settings
end

namespace Settings

/-- All doubles are finite numbers. -/
def IsFinite (s : Settings) : Prop := ∀ x ∈ s.doubles, x.isFinite = true

theorem read_json_eq_ok_iff {text : List Char} {s : Settings} :
    read .json text = .ok s ↔ ∃ d, Json.read? text = some d ∧ ofDocument? .json d = some s := by
  rw [← Option.bind_eq_some_iff, read]
  cases (Json.read? text).bind (ofDocument? .json) <;> simp

/-- The settings are read back from the document that they are written as, and from its text if
their doubles are read back from theirs. -/
def ReadsBack (s : Settings) : Prop :=
  ofDocument? .json s.toDocument = some s ∧
    ((∀ x ∈ s.doubles, Json.FloatReadsBack x) → read .json s.write.toList = .ok s)

theorem readsBack (s : Settings) : s.ReadsBack := by
  refine ⟨s.ofDocument?_toDocument .json, fun doubles => ?_⟩
  have parsed := Json.read?_write (s.holds_toDocument_iff.2 doubles)
  exact read_json_eq_ok_iff.2 ⟨_, parsed, s.ofDocument?_toDocument .json⟩

/-- Finite settings have a finite document and are read back. So are all settings that are read from
a JSON text: they are finite and are written as the normal form of its document. Two documents with
the same normal form are read as the same settings, and a field that says nothing does not change
the form. -/
theorem read_write :
    (∀ s : Settings, s.IsFinite → s.toDocument.IsFinite ∧ s.ReadsBack) ∧
      (∀ text s, read .json text = .ok s → s.IsFinite ∧ s.ReadsBack ∧
        ∃ d, Json.read? text = some d ∧ s.toDocument = normal d) ∧
      (∀ d d' s s', ofDocument? .json d = some s → ofDocument? .json d' = some s' →
        normal d = normal d' → s = s') ∧
      ∀ forms before after name d, Document.IsSpare forms (before ++ after) name d →
        Document.filled forms (.table (before ++ (name, d) :: after)) =
          Document.filled forms (.table (before ++ after)) := by
  refine ⟨?_, ?_, ?_, ?_⟩
  · intro s finite
    exact ⟨s.holds_toDocument_iff.2 finite, s.readsBack⟩
  · intro text s eq
    obtain ⟨d, parsed, found⟩ := read_json_eq_ok_iff.1 eq
    have same := normal_eq d s found
    have finite := keepsFinite_normal d (isFinite_of_read? parsed)
    rw [same] at finite
    exact ⟨s.holds_toDocument_iff.1 finite, s.readsBack, d, parsed, same.symm⟩
  · intro d d' s s' found found' same
    rw [normal_eq d s found, normal_eq d' s' found'] at same
    have again := s.ofDocument?_toDocument .json
    rw [same, s'.ofDocument?_toDocument .json] at again
    exact (Option.some.inj again).symm
  · intro forms before after name d spare
    exact Document.filled_insert spare

end Settings

namespace Sample
open Settings

/-- A region of the older form that starts in column 3, and a rotation to the left. -/
def sparse : Settings :=
  { file := none, rotation := -0.5, debug := false, drift := none, recognizers := [],
    regions := [⟨none, none, none, 0, false, some ⟨3, -1, -1, -1⟩⟩] }

/-- Most fields are left out, one is null and one is not known. -/
def sparseText : String :=
  "\x7b\"rotate\":-0.5,\"file\":null,\"note\":[7]," ++
    "\"boundingboxes\":[\x7b\"box\":\x7b\"x1\":3\x7d\x7d]\x7d"

theorem toDocument_half :
    Json.NumberText.toDocument ⟨true, ['0'], ['5'], none⟩ = .float (-0.5) := by
  have number : Json.NumberText.toFloat? ⟨true, ['0'], ['5'], none⟩ = some (-0.5) := by
    decide +kernel
  rw [Json.NumberText.toDocument, number]
  rfl

theorem floatReadsBack_half : Json.FloatReadsBack (-0.5) := by
  have text : Json.numberText (-0.5) = "-0.5" := by decide +kernel
  rw [Json.FloatReadsBack, text, ← toDocument_half]
  rfl

theorem read?_sparseText : Json.read? sparseText.toList = some (.table [("rotate", .float (-0.5)),
    ("file", .null), ("note", .array [.integer 7]),
    ("boundingboxes", .array [.table [("box", .table [("x1", .integer 3)])]])]) := by
  rw [← toDocument_half]
  rfl

/-- The sparse text is read as the settings, and so is the text with all fields that they are
written as. -/
theorem read_write_sparse :
    read .json sparseText.toList = .ok sparse ∧ sparse.toDocument.IsFinite ∧
      read .json sparse.write.toList = .ok sparse := by
  obtain ⟨ofFinite, ofText, -, -⟩ := read_write
  have accepted : read .json sparseText.toList = .ok sparse :=
    read_json_eq_ok_iff.2 ⟨_, read?_sparseText, rfl⟩
  obtain ⟨finite, readsBack, -⟩ := ofText _ _ accepted
  have doubles : ∀ x ∈ sparse.doubles, Json.FloatReadsBack x :=
    List.forall_mem_singleton.2 floatReadsBack_half
  exact ⟨accepted, (ofFinite sparse finite).1, readsBack.2 doubles⟩

end Sample
end MeterSight
