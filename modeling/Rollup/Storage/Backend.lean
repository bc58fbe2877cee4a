import Rollup.Relational.Adapter
import Rollup.Settings.Basic
import Rollup.Storage.Document
import Rollup.Storage.Engine
import Rollup.Storage.TimeSeries

/-!
The one storage of a deployment, chosen by its settings. Clients for document and time-series
storages have to be supplied; a relational storage is opened unless one is supplied.
-/
namespace Rollup

structure Clients where
  document : Option Document.Client
  timeSeries : Option TimeSeries.Client
  relational : Option Store

/-- An adapter with its state: what it has sent so far, the latest first, or its store. -/
inductive Backend
  | document (adapter : Document.Adapter) (sent : List Document.Search)
  | timeSeries (adapter : TimeSeries.Adapter) (sent : List String)
  | relational (adapter : Relational) (store : Store)

namespace Backend

def contextOf (settings : Settings) (context : Context) : Context :=
  (context.withRanks settings.ranks).withDayStep settings.dayStep.toNat

def ofSettings (settings : Settings) (context : Context) (clients : Clients) :
    Outcome Backend := do
  let context := contextOf settings context
  match ← Engine.ofName settings.engine with
  | .document =>
    match clients.document with
    | some client => .ok (.document ⟨client, context, settings.maxHits.toNat⟩ [])
    | none => .error (.error .noSearchClient)
  | .timeSeries =>
    match clients.timeSeries with
    | some client => .ok (.timeSeries ⟨client, context, settings.database⟩ [])
    | none => .error (.error .noTimeSeriesClient)
  | .relational => do
    let store ← match clients.relational with
      | some store => .ok store
      | none => Store.open? settings.connection settings.poolSize.toNat
    .ok (.relational ⟨context, settings.space⟩ store)

def engine : Backend → Engine
  | document _ _ => .document
  | timeSeries _ _ => .timeSeries
  | relational _ _ => .relational

def read : Storage Backend := fun request bucket backend =>
  match backend with
  | document adapter sent =>
    let (outcome, sent) := adapter.read request bucket sent
    (outcome, document adapter sent)
  | timeSeries adapter sent =>
    let (outcome, sent) := adapter.read request bucket sent
    (outcome, timeSeries adapter sent)
  | relational adapter store =>
    let (outcome, store) := adapter.read request bucket store
    (outcome, relational adapter store)

def searches : Backend → List Document.Search
  | document _ sent => sent.reverse
  | _ => []

def commands : Backend → List String
  | timeSeries _ sent => sent.reverse
  | _ => []

end Backend

end Rollup
