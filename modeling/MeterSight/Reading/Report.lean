import MeterSight.Document.Json
import MeterSight.Reading.Tally

/-!
# Reports

A reading as a line of text, either with tabs between time, identifier and value, or as JSON.
-/
namespace MeterSight.Reading

/-- Time, identifier and value between tabs. -/
def textLine (r : Reading Float) : String :=
  r.time.offsetText ++ "\t" ++ r.identifier ++ "\t" ++ Decimal.plainText r.value

/-- A JSON object with the fields in this order. -/
def jsonLine (r : Reading Float) : String :=
  Json.write (.table
    [("identifier", .string r.identifier), ("value", .float r.value),
      ("time", .string r.time.zuluText)])

/-- A reading as one line. -/
def line (json : Bool) (r : Reading Float) : String := if json then r.jsonLine else r.textLine

end MeterSight.Reading
