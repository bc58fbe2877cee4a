import Rollup.Json.Printer
import Rollup.Json.Reading
import Rollup.Text.Shown

/-!
Rows of stored data, read by the physical names of their columns. A column that a row does not have
is an error, a column that holds null has no value.
-/
namespace Rollup

/-- How a row answers for an integer or a text in a column. -/
structure Row where
  long : String → Except Error (Option Int64)
  text : String → Except Error (Option String)

/-- Reads an integer from a JSON value. A whole binary number counts as one, and so does a text
that is a numeral between blanks. -/
def Json.toLong (column : String) : Json → Except Error (Option Int64)
  | .null => .ok none
  | .number (.integer value) =>
    match Amount.ofInt? value with
    | some value => .ok (some value)
    | none => .error (.notAnInteger column (Json.Number.render (.integer value)))
  | .number (.float value) =>
    match value.toInt? with
    | some whole =>
      if whole.natAbs < Nat.pow 2 63 then .ok (some (Int64.ofInt whole))
      else .error (.notAnInteger column (Json.Number.render (.float value)))
    | none => .error (.notAnInteger column (Json.Number.render (.float value)))
  | .string text =>
    match (Numeral.signed? (Text.trim text.toList)).bind Amount.ofInt? with
    | some value => .ok (some value)
    | none => .error (.notAnInteger column (Text.shown text))
  | json => .error (.notAnInteger column json.render)

/-- Reads a text from a JSON value; what is not a string stands for its compact text. -/
def Json.toText : Json → Option String
  | .null => none
  | .string text => some text
  | json => some json.render

namespace Row

def field (field? : String → Option Json) (column : String) : Except Error Json :=
  match field? column with
  | some json => .ok json
  | none => .error (.missingColumn column)

def ofJson (field? : String → Option Json) : Row where
  long column := do
    let json ← field field? column
    json.toLong column
  text column := do
    let json ← field field? column
    .ok json.toText

def ofFields (fields : List (String × Json)) : Row :=
  ofJson fun column => fields.lookup column

/-- The row of values that stand in the order of their columns; of two columns of one name the
later one counts. -/
def ofColumns (columns : List String) (values : List Json) : Row :=
  ofJson fun column =>
    (columns.zipIdx.reverse.lookup column).bind fun position => values[position]?

end Row

end Rollup
