import Rollup.Json.Draft
import Rollup.Json.Reading

/-!
Models: the columns of a metric in order, each with a logical name, the name it is stored under and
its role.
-/
namespace Rollup

inductive Role
  | key
  | storageOnly
  | value
  | histogram
deriving DecidableEq, Repr

namespace Role

def name : Role → String
  | key => "key"
  | storageOnly => "storage_only"
  | value => "value"
  | histogram => "histogram"

def ofName? (name : String) : Option Role :=
  [key, storageOnly, value, histogram].find? fun role => role.name = name

end Role

structure Column where
  name : String
  storage : String
  role : Role
deriving DecidableEq, Repr

structure Model where
  name : String
  columns : List Column
deriving DecidableEq, Repr

namespace Column

def plain (name : String) (role : Role) : Column :=
  ⟨name, name, role⟩

def shape : Json.Shape :=
  .fields [("column_name", .fields [("name", .all), ("storage_name", .all)]), ("role", .all)]

def ofJson (json : Json) : Except Error Column := do
  let fields ← json.readFields ["column_name", "role"]
  let (name, storage) ← fields.required "column_name" fun json => do
    let fields ← json.readFields ["name", "storage_name"]
    let name ← fields.required "name" Json.readString
    let storage ← fields.required "storage_name" Json.readString
    .ok (name, storage)
  let role ← fields.required "role" (Json.readNamed Role.ofName?)
  .ok ⟨name, storage, role⟩

def toJson (column : Column) : Json :=
  .object [
    ("column_name", .object [("name", .string column.name),
      ("storage_name", .string column.storage)]),
    ("role", .string column.role.name)]

end Column

namespace Model

/-- The columns that the records of a kind have besides their key. -/
def measureColumns : Kind → List Column
  | .average =>
    [.plain "summation" .storageOnly, .plain "count" .storageOnly, .plain "max" .storageOnly,
      .plain "min" .storageOnly, .plain "value" .value]
  | .percentile =>
    [.plain "precision" .storageOnly, .plain "dataset" .histogram, .plain "value" .histogram]
  | .percentage =>
    [.plain "total" .storageOnly, .plain "percentage" .value, .plain "match" .storageOnly]
  | .cpm => [.plain "total" .storageOnly, .plain "value" .value]
  | .sum | .max | .singleValue => [.plain "value" .value]

/-- The model of a metric of this kind, with all columns stored under their logical names. -/
def ofKind (name : String) (kind : Kind) : Model :=
  ⟨name,
    [.plain "entity_id" .key, .plain "service_id" .key, .plain "time_bucket" .key] ++
      measureColumns kind⟩

def rename (model : Model) (logical storage : String) : Model :=
  { model with
    columns := model.columns.map fun column =>
      if column.name = logical then { column with storage } else column }

def valueColumn? (model : Model) : Option String :=
  (model.columns.find? (·.role = .value)).map (·.name)

def ofJson (json : Json) : Except Error Model := do
  let fields ← json.readFields ["name", "columns"]
  let name ← fields.required "name" Json.readString
  let columns ← fields.required "columns" (Json.readList Column.ofJson)
  .ok ⟨name, columns⟩

def toJson (model : Model) : Json :=
  .object [("name", .string model.name), ("columns", Json.ofList Column.toJson model.columns)]

end Model

end Rollup
