import MeterSight.Document.Basic

/-!
# Records in documents

A record is a table with some known names, or an array of the values in order. Unknown names in a
table are passed over; a known one appears at most once.
-/
namespace MeterSight

/-- One known field of a record. -/
structure Field (α : Type) where
  name : String
  read : Document → Option α
  /-- The value where a table has no such name, if it may be left out. -/
  absent : Option α
  /-- The value where an array has ended, if it may end before this field. -/
  ended : Option α

namespace Field
variable {α : Type}

/-- A field that must be there. -/
def required (name : String) (read : Document → Option α) : Field α := ⟨name, read, none, none⟩

/-- A field with a value for where it is left out. -/
def withDefault (name : String) (read : Document → Option α) (value : α) : Field α :=
  ⟨name, read, some value, some value⟩

/-- Null is no value. -/
def nullable (read : Document → Option α) : Document → Option (Option α)
  | .null => some none
  | d => (read d).map some

/-- A field that may be null, or left out of a table but not of an array. -/
def optional (name : String) (read : Document → Option α) : Field (Option α) :=
  ⟨name, nullable read, some none, none⟩

/-- A field that may be null or left out of either. -/
def omissible (name : String) (read : Document → Option α) : Field (Option α) :=
  ⟨name, nullable read, some none, some none⟩

end Field

/-- A record that is being read: all fields of a table, or what is left of an array. -/
inductive RecordSource where
  | table (fields : List (String × Document))
  | row (items : List Document)

/-- Reads the fields of a record one after the other. -/
abbrev RecordReader (α : Type) := RecordSource → Option (α × RecordSource)

namespace RecordReader
variable {α β : Type}

/-- Reads one field. -/
def field (f : Field α) : RecordReader α
  | .table fields =>
    match fields.filter fun e => e.1 = f.name with
    | [] => f.absent.map (·, .table fields)
    | [e] => (f.read e.2).map (·, .table fields)
    | _ => none
  | .row [] => f.ended.map (·, .row [])
  | .row (item :: rest) => (f.read item).map (·, .row rest)

/-- Takes the values read so far and one field more. -/
def andField (p : RecordReader (α → β)) (f : Field α) : RecordReader β := fun source => do
  let (make, source) ← p source
  let (a, source) ← field f source
  return (make a, source)

/-- Takes nothing yet. -/
def start (make : α) : RecordReader α := fun source => some (make, source)

/-- Reads a document that is a record. Only JSON minds an array with too many values; a date or a
time counts as a table without known names. -/
def run (format : DocumentFormat) (p : RecordReader α) : Document → Option α
  | .table fields => (p (.table fields)).map Prod.fst
  | .dateTime => (p (.table [])).map Prod.fst
  | .array items =>
    match p (.row items) with
    | some (a, .row []) => some a
    | some (a, _) => if format = .json then none else some a
    | none => none
  | _ => none

end RecordReader

namespace Document

def bool? : Document → Option Bool
  | .bool b => some b
  | _ => none

def string? : Document → Option String
  | .string s => some s
  | _ => none

/-- A number with or without fraction, as a double. -/
def float? : Document → Option Float
  | .float x => some x
  | .integer n => some (Float.ofInt n)
  | _ => none

/-- A whole number in a range. -/
def integerIn? (low high : Int) : Document → Option Int
  | .integer n => if low ≤ n ∧ n ≤ high then some n else none
  | _ => none

/-- A list of values that are all readable. -/
def list? {α : Type} (read : Document → Option α) : Document → Option (List α)
  | .array items => items.mapM read
  | _ => none

def int64? (d : Document) : Option Int64 :=
  (d.integerIn? (-9223372036854775808) 9223372036854775807).map Int64.ofInt

def int32? (d : Document) : Option Int32 :=
  (d.integerIn? (-2147483648) 2147483647).map Int32.ofInt

def uint8? (d : Document) : Option UInt8 := (d.integerIn? 0 255).map fun n => UInt8.ofNat n.toNat

end Document
end MeterSight
