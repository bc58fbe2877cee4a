import Rollup.Error
import Rollup.Json.Basic

/-!
Reading typed values from JSON. Nothing is converted: an integer has to be written as one and fit
its range, and null is a value for optional parts only. A structure is an object of its fields, in
which other fields are ignored, or an array of the fields in their declared order.
-/
namespace Rollup

namespace Json

def readString : Json → Except Error String
  | .string value => .ok value
  | _ => .error (.malformed "a string")

def readBool : Json → Except Error Bool
  | .bool value => .ok value
  | _ => .error (.malformed "a boolean")

def readInt (least greatest : Int) : Json → Except Error Int
  | .number (.integer value) =>
    if least ≤ value ∧ value ≤ greatest then .ok value
    else .error (.malformed "an integer within its range")
  | _ => .error (.malformed "an integer")

def readInt64 (json : Json) : Except Error Int64 :=
  (readInt Amount.least Amount.greatest json).map Int64.ofInt

def readInt32 (json : Json) : Except Error Int32 :=
  (readInt Int32.minValue.toInt Int32.maxValue.toInt json).map Int32.ofInt

def readUInt64 (json : Json) : Except Error UInt64 :=
  (readInt 0 (UInt64.size - 1 : Nat) json).map fun value => UInt64.ofNat value.toNat

def readUInt32 (json : Json) : Except Error UInt32 :=
  (readInt 0 (UInt32.size - 1 : Nat) json).map fun value => UInt32.ofNat value.toNat

def readList {α : Type} (read : Json → Except Error α) : Json → Except Error (List α)
  | .array items => items.mapM read
  | _ => .error (.malformed "a list")

/-- An object of values that all have one type, in ascending order of keys. -/
def readMap {α : Type} (read : Json → Except Error α) :
    Json → Except Error (List (String × α))
  | .object fields => do
    let fields ← fields.mapM fun (key, value) => do
      let value ← read value
      .ok (key, value)
    .ok (sortFields fields)
  | _ => .error (.malformed "an object")

def readOption {α : Type} (read : Json → Except Error α) : Json → Except Error (Option α)
  | .null => .ok none
  | json => (read json).map some

/-- The name of a constant: a string, or an object with the one field of that name and null. -/
def readName : Json → Except Error String
  | .string name => .ok name
  | .object [(name, .null)] => .ok name
  | _ => .error (.malformed "a name")

def readNamed {α : Type} (ofName? : String → Option α) (json : Json) : Except Error α := do
  match ofName? (← readName json) with
  | some value => .ok value
  | none => .error (.malformed "a known name")

structure Fields where
  given : List (String × Json)

def hasRepeated (names : List String) (fields : List (String × Json)) : Bool :=
  names.any fun name => 1 < (fields.filter (·.1 = name)).length

/-- The fields of an object; a declared one may not be given twice. -/
def readObject (names : List String) : Json → Except Error Fields
  | .object fields =>
    if hasRepeated names fields then .error (.malformed "each field once")
    else .ok ⟨fields⟩
  | _ => .error (.malformed "an object")

def readFields (names : List String) : Json → Except Error Fields
  | .array items =>
    if items.length ≤ names.length then .ok ⟨names.zip items⟩
    else .error (.malformed "no more items than fields")
  | json => readObject names json

namespace Fields

def get? (fields : Fields) (name : String) : Option Json :=
  fields.given.lookup name

def required {α : Type} (fields : Fields) (name : String) (read : Json → Except Error α) :
    Except Error α :=
  match fields.get? name with
  | some json => read json
  | none => .error (.malformed s!"the field {name}")

/-- A field that has a value of its own when it is missing; null does not count as missing. -/
def withDefault {α : Type} (fields : Fields) (name : String) (default : α)
    (read : Json → Except Error α) : Except Error α :=
  match fields.get? name with
  | some json => read json
  | none => .ok default

def optional {α : Type} (fields : Fields) (name : String) (read : Json → Except Error α) :
    Except Error (Option α) :=
  fields.withDefault name none (readOption read)

end Fields

def readKind : Json → Except Error Kind :=
  readNamed Kind.ofName?

def ofInt64 (value : Int64) : Json := .int value.toInt

def ofInt32 (value : Int32) : Json := .int value.toInt

def ofKind (kind : Kind) : Json := .string kind.name

end Json

end Rollup
