import Rollup.Binary64.Basic

/-!
JSON values. A number keeps whether it was written as an integer, and an object keeps its fields as
they were written; `normalize` brings objects into the order of their keys, the last of several
fields under one key staying.
-/
namespace Rollup

/-- A number of a JSON text: one that fits 64 bits, signed or not, or a binary number. -/
inductive Json.Number
  | integer (value : Int)
  | float (value : Binary64)
deriving DecidableEq, Repr

inductive Json
  | null
  | bool (value : Bool)
  | number (value : Json.Number)
  | string (value : String)
  | array (items : List Json)
  | object (fields : List (String × Json))
deriving Repr

namespace Json

def int (value : Int) : Json :=
  .number (.integer value)

def ofOption {α : Type} (f : α → Json) : Option α → Json
  | some value => f value
  | none => .null

def ofList {α : Type} (f : α → Json) (values : List α) : Json :=
  .array (values.map f)

/-- Puts a field into a list in ascending order of keys, in place of one under the same key. -/
def insertField {α : Type} (key : String) (value : α) :
    List (String × α) → List (String × α)
  | [] => [(key, value)]
  | (k, v) :: rest =>
    if key < k then (key, value) :: (k, v) :: rest
    else if key = k then (k, value) :: rest
    else (k, v) :: insertField key value rest

/-- Fields in ascending order of keys; of several under one key the last one stays. -/
def sortFields {α : Type} (fields : List (String × α)) : List (String × α) :=
  fields.foldl (fun sorted (key, value) => insertField key value sorted) []

mutual

/-- The value with the fields of every object in the order of their keys, each key once. -/
def normalize : Json → Json
  | .array items => .array (normalizeItems items)
  | .object fields => .object (sortFields (normalizeFields fields))
  | .null => .null
  | .bool value => .bool value
  | .number value => .number value
  | .string value => .string value

def normalizeItems : List Json → List Json
  | [] => []
  | item :: rest => item.normalize :: normalizeItems rest

def normalizeFields : List (String × Json) → List (String × Json)
  | [] => []
  | (key, value) :: rest => (key, value.normalize) :: normalizeFields rest

end

def get? (key : String) : Json → Option Json
  | .object fields => fields.lookup key
  | _ => none

end Json

end Rollup
