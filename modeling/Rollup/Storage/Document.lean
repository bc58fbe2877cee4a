import Rollup.Bucket.Partition
import Rollup.Storage.Naming

/-!
Queries over a document store. One search covers the indices of all requested metrics; the index of
a hit tells its metric, and the id of its document is the record id.
-/
namespace Rollup

namespace Document

structure Hit where
  index : String
  id : String
  source : List (String × Json)
deriving Repr

namespace Hit

def ofJson (json : Json) : Except Error Hit := do
  let fields ← json.readFields ["_index", "_id", "_source"]
  let index ← fields.required "_index" Json.readString
  let id ← fields.withDefault "_id" "" Json.readString
  let source ← fields.withDefault "_source" [] (Json.readMap .ok)
  .ok ⟨index, id, source⟩

end Hit

structure Search where
  indices : List String
  body : Json
deriving Repr

structure Client where
  format : String → String
  search : Search → Except Error (List Hit)

structure Adapter where
  client : Client
  context : Context
  maxHits : Nat

def term (field : String) (value : Json) : Json :=
  .object [("term", .object [(field, value)])]

def body (maxHits : Nat) (scope : Scope) (bucket : Int64) : Json :=
  let must := term keyColumns.bucket (Json.ofInt64 bucket) ::
    (scope.filter?.map fun (field, id) => term field (.string id)).toList
  .object [("size", .int maxHits),
    ("query", .object [("bool", .object [("must", .array must)])])]

/-- The record id of a hit and its decoded values; a hit without an id gives nothing. -/
def readHit (context : Context) (metric? : String → Option String) (hit : Hit) :
    Except Error (Option (String × ValueSet)) :=
  if hit.id = "" then .ok none
  else
    match metric? hit.index with
    | none => .error (.unrequestedIndex hit.index)
    | some metric => do
      let set ← Decoder.decode context metric (.ofFields hit.source)
      .ok (some (hit.id, set))

def readHits (context : Context) (metric? : String → Option String) (request : Request)
    (bucket : Int64) (hits : List Hit) : Except Error (List Result) := do
  let found ← hits.mapM (readHit context metric?)
  .ok (Result.collect request.scope bucket (found.filterMap id))

namespace Adapter

/-- The adapter as a storage whose state is the list of searches so far, the latest first. -/
def read (adapter : Adapter) : Storage (List Search) := fun request bucket sent =>
  match PhysicalNames.ofRequest request.names bucket.toInt adapter.context.dayStep with
  | .error failure => (.error failure, sent)
  | .ok names =>
    let search : Search :=
      ⟨names.physical.map adapter.client.format, body adapter.maxHits request.scope bucket⟩
    let outcome := do
      let hits ← adapter.client.search search
      readHits adapter.context (names.metric? adapter.client.format) request bucket hits
    (.ofExcept outcome, search :: sent)

end Adapter

end Document

end Rollup
