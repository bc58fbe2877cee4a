import Rollup.Query.Scope

/-!
Answers of a query: one result for each record id, with the values of every metric found under it.
Results stand in the order in which their ids were first seen.
-/
namespace Rollup

structure NamedValue where
  id : String
  value : Int64
deriving DecidableEq, Repr

structure ValueSet where
  label : String
  values : List NamedValue
deriving DecidableEq, Repr

structure Result where
  id : String
  entity : String
  bucket : String
  sets : List ValueSet
deriving DecidableEq, Repr

/-- What a query asks for: metric names, duplicates included, and a scope. -/
structure Request where
  names : List String
  scope : Scope
deriving DecidableEq, Repr

namespace NamedValue

def ofJson (json : Json) : Except Error NamedValue := do
  let fields ← json.readFields ["id", "value"]
  let id ← fields.required "id" Json.readString
  let value ← fields.required "value" Json.readInt64
  .ok ⟨id, value⟩

def toJson (value : NamedValue) : Json :=
  .object [("id", .string value.id), ("value", Json.ofInt64 value.value)]

end NamedValue

namespace ValueSet

def get? (set : ValueSet) (id : String) : Option Int64 :=
  (set.values.find? (·.id = id)).map (·.value)

def ofJson (json : Json) : Except Error ValueSet := do
  let fields ← json.readFields ["label", "values"]
  let label ← fields.required "label" Json.readString
  let values ← fields.required "values" (Json.readList NamedValue.ofJson)
  .ok ⟨label, values⟩

def toJson (set : ValueSet) : Json :=
  .object [("label", .string set.label), ("values", Json.ofList NamedValue.toJson set.values)]

end ValueSet

namespace Result

def set? (result : Result) (label : String) : Option ValueSet :=
  result.sets.find? (·.label = label)

def ofJson (json : Json) : Except Error Result := do
  let fields ← json.readFields ["id", "entity_id", "time_bucket", "metrics"]
  let id ← fields.required "id" Json.readString
  let entity ← fields.required "entity_id" Json.readString
  let bucket ← fields.required "time_bucket" Json.readString
  let sets ← fields.required "metrics" (Json.readList ValueSet.ofJson)
  .ok ⟨id, entity, bucket, sets⟩

def toJson (result : Result) : Json :=
  .object [("id", .string result.id), ("entity_id", .string result.entity),
    ("time_bucket", .string result.bucket), ("metrics", Json.ofList ValueSet.toJson result.sets)]

/-- Adds a value set to the result with this id, or starts one at the end. -/
def add (scope : Scope) (bucket : Int64) (id : String) (set : ValueSet) : List Result → List Result
  | [] => [⟨id, scope.id, Numeral.render bucket.toInt, [set]⟩]
  | result :: rest =>
    if result.id = id then { result with sets := result.sets ++ [set] } :: rest
    else result :: add scope bucket id set rest

def collect (scope : Scope) (bucket : Int64) (found : List (String × ValueSet)) : List Result :=
  found.foldl (fun results (id, set) => add scope bucket id set results) []

end Result

end Rollup
