import Rollup.Catalog.Model
import Rollup.Catalog.Overrides
import Rollup.Catalog.Registry

/-!
Column metadata of all models, and the catalog that a query works with. Adding a model under a name
that is taken replaces the former one as a whole. A rename of the deployment is asked before the
model, even for a metric without one.
-/
namespace Rollup

structure Metadata where
  models : List (String × Model)
  overrides : Option Overrides
deriving DecidableEq, Repr

namespace Metadata

def empty (overrides : Option Overrides) : Metadata := ⟨[], overrides⟩

def add (metadata : Metadata) (model : Model) : Metadata :=
  { metadata with models := putUnder model.name model metadata.models }

def contains (metadata : Metadata) (metric : String) : Bool :=
  (metadata.models.lookup metric).isSome

def resolve (metadata : Metadata) (metric : String) : Except Error Model :=
  match metadata.models.lookup metric with
  | some model => .ok model
  | none => .error (.noTable metric)

/-- The names of all models in ascending order. -/
def names (metadata : Metadata) : List String :=
  (Json.sortFields metadata.models).map (·.1)

/-- The name that a model stores a logical column under; of several such columns the last counts. -/
def modelStorage? (model : Model) (column : String) : Option String :=
  (model.columns.reverse.find? (·.name = column)).map (·.storage)

/-- The logical columns of a model with the names they are stored under, each once. -/
def storageMap (model : Model) : List (String × String) :=
  Json.sortFields (model.columns.map fun column => (column.name, column.storage))

def override? (metadata : Metadata) (metric column : String) : Option String :=
  metadata.overrides.bind fun overrides => overrides.storage? metric column

def physicalName (metadata : Metadata) (metric column : String) : Except Error String :=
  match metadata.override? metric column with
  | some storage => .ok storage
  | none => do
    let model ← metadata.resolve metric
    match modelStorage? model column with
    | some storage => .ok storage
    | none => .error (.undefinedColumn column metric)

def valueColumn (metadata : Metadata) (metric : String) : Except Error String := do
  let model ← metadata.resolve metric
  match model.valueColumn? with
  | some column => .ok column
  | none => .error (.noValueColumn metric)

end Metadata

structure Catalog where
  registry : Registry
  metadata : Metadata
deriving DecidableEq, Repr

namespace Catalog

def build (kinds : List (String × Kind)) (models : List Model) (overrides : Option Overrides) :
    Except Error Catalog := do
  let registry ← kinds.foldlM (fun registry (name, kind) => registry.registerKind name kind) .empty
  .ok ⟨registry, models.foldl Metadata.add (.empty overrides)⟩

def knows (catalog : Catalog) (metric : String) : Bool :=
  catalog.metadata.contains metric && catalog.registry.contains metric

end Catalog

end Rollup
