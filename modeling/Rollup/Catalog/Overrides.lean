import Rollup.Json.Reading

/-!
Column renames of a deployment. A rename holds for every metric or for one; for a metric its own
rename of a column wins. Of two renames of the same column the later one stays.
-/
namespace Rollup

/-- New names by old ones, at most one to each. -/
abbrev Renames := List (String × String)

/-- Puts a value under a key, in place of the one that stands there. -/
def putUnder {α : Type} (key : String) (value : α) : List (String × α) → List (String × α)
  | [] => [(key, value)]
  | (k, v) :: rest => if k = key then (key, value) :: rest else (k, v) :: putUnder key value rest

structure Overrides where
  everywhere : Renames
  perMetric : List (String × Renames)
deriving DecidableEq, Repr

namespace Overrides

def empty : Overrides := ⟨[], []⟩

def isEmpty (overrides : Overrides) : Bool :=
  overrides.everywhere.isEmpty && overrides.perMetric.isEmpty

def rename (overrides : Overrides) (column storage : String) : Overrides :=
  { overrides with everywhere := putUnder column storage overrides.everywhere }

def renameFor (overrides : Overrides) (metric column storage : String) : Overrides :=
  let renames := (overrides.perMetric.lookup metric).getD []
  { overrides with
    perMetric := putUnder metric (putUnder column storage renames) overrides.perMetric }

def storage? (overrides : Overrides) (metric column : String) : Option String :=
  ((overrides.perMetric.lookup metric).bind fun renames => renames.lookup column).or
    (overrides.everywhere.lookup column)

def ofJson (json : Json) : Except Error Overrides := do
  let fields ← json.readObject ["global", "per_metric"]
  let everywhere ← fields.required "global" (Json.readMap Json.readString)
  let perMetric ← fields.required "per_metric" (Json.readMap (Json.readMap Json.readString))
  .ok ⟨everywhere, perMetric⟩

end Overrides

end Rollup
