import Rollup.Query.Decoder

/-!
The entry point of queries. A query whose bucket has no granularity is refused; names without a
kind or without a model are dropped; and only if a name is left the storage is asked.
-/
namespace Rollup

/-- A storage answers requests at a bucket. It may change state of its own, also when it fails. -/
abbrev Storage (State : Type) :=
  Request → Int64 → State → Outcome (List Result) × State

namespace Service

def knownNames (catalog : Catalog) (names : List String) : List String :=
  names.filter catalog.knows

def read {State : Type} (catalog : Catalog) (storage : Storage State) : Storage State :=
  fun request bucket state =>
    match Bucket.granularity bucket.toInt with
    | .error error => (.error (.error error), state)
    | .ok _ =>
      match knownNames catalog request.names with
      | [] => (.ok [], state)
      | names => storage { request with names } bucket state

end Service

end Rollup
