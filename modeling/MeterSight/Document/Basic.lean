/-!
# Documents

The tree that a configuration text describes, whichever of the two formats it is written in.
-/
namespace MeterSight

inductive Document where
  | null
  | bool (b : Bool)
  | integer (n : Int)
  | float (x : Float)
  | string (s : String)
  /-- A date, a time or both. No setting is one, so which it is does not matter. -/
  | dateTime
  /-- Well-formed text without a value, as a number too large for a double or a string with half a
  surrogate pair. It may stand where nobody looks. -/
  | unusable
  | array (items : List Document)
  /-- The fields in order of appearance, which may repeat a name. -/
  | table (fields : List (String × Document))

/-- The two formats of configuration texts. -/
inductive DocumentFormat where
  | json
  | toml
  deriving DecidableEq, Repr

end MeterSight
