import Rollup.Record.Interchange
import Rollup.Storage.Backend
import Rollup.Tool.Arguments

/-!
The command-line tool: it reads settings, a catalog of models and records to begin with, writes the
records to a relational storage, and answers one query. Every record is given the ranks of the
settings and calculated anew before it is written.
-/
namespace Rollup

namespace Tool

/-- A model in the catalog: a metric, its kind, and its columns unless they are those of the
kind. -/
structure Entry where
  name : String
  kind : Kind
  columns : Option (List Column)
deriving DecidableEq, Repr

namespace Entry

def shape : Json.Shape :=
  .fields [("name", .all), ("kind", .all), ("columns", .list Column.shape)]

def ofJson (json : Json) : Except Error Entry := do
  let fields ← json.readFields ["name", "kind", "columns"]
  let name ← fields.required "name" Json.readString
  let kind ← fields.required "kind" Json.readKind
  let columns ← fields.optional "columns" (Json.readList Column.ofJson)
  .ok ⟨name, kind, columns⟩

def model (entry : Entry) : Model :=
  match entry.columns with
  | some columns => ⟨entry.name, columns⟩
  | none => .ofKind entry.name entry.kind

end Entry

structure Seed where
  metric : String
  record : Record
deriving DecidableEq, Repr

namespace Seed

def shape : Json.Shape :=
  .fields [("metric", .all), ("record", .all)]

def ofJson (json : Json) : Except Error Seed := do
  let fields ← json.readFields ["metric", "record"]
  let metric ← fields.required "metric" Json.readString
  let record ← fields.required "record" Record.ofJson
  .ok ⟨metric, record⟩

end Seed

/-- What keeps the tool from an answer. -/
inductive Trouble
  | error (cause : Error)
  | needsClient (engine : Engine)
  | unread (path : String)
  | unparsed (path : String)
  | noModel (metric : String)
deriving DecidableEq, Repr

namespace Trouble

def text : Trouble → String
  | error cause => cause.message
  | needsClient engine =>
    s!"the {engine.name} engine needs an injected client and cannot be used from the command line"
  | unread path => s!"reading {path}"
  | unparsed path => s!"parsing {path}"
  | noModel metric => s!"no model for seeded metric {metric}"

end Trouble

inductive Stop
  | usage (usage : Usage)
  | trouble (trouble : Trouble)
  | crash (cause : Crash)
deriving DecidableEq, Repr

namespace Stop

/-- The exit status. Help and version are what was asked for. -/
def status : Stop → UInt8
  | usage .help | usage .version => 0
  | usage _ => 2
  | trouble _ => 1
  | crash _ => 101

def ofFailure : Failure → Stop
  | .error cause => trouble (.error cause)
  | .crash cause => crash cause

end Stop

def lift {α : Type} (outcome : Outcome α) : Except Stop α :=
  outcome.mapError Stop.ofFailure

/-- Reads a list of values from a file. Beside what is read, the text only has to be well-formed. -/
def readValues {α : Type} (files : Settings.Files) (path : String) (shape : Json.Shape)
    (read : Json → Except Error α) : Except Stop (List α) :=
  match files path with
  | none => .error (.trouble (.unread path))
  | some text =>
    match (Json.parseShaped? (.list shape) text).map (Json.readList read) with
    | some (.ok values) => .ok values
    | _ => .error (.trouble (.unparsed path))

def catalogOf (settings : Settings) (entries : List Entry) : Except Error Catalog :=
  Catalog.build (entries.map fun entry => (entry.name, entry.kind)) (entries.map Entry.model)
    settings.overrides?

/-- A store into which records are written, and the tables created for them so far. -/
structure Sowing where
  created : List (String × Int64)
  store : Store

/-- Creates the table of a metric at a bucket unless that has been done. -/
def prepare (adapter : Relational) (models : List Model) (sowing : Sowing) (metric : String)
    (bucket : Int64) : Except Stop Sowing :=
  if (metric, bucket) ∈ sowing.created then .ok sowing
  else
    match models.find? (·.name = metric) with
    | none => .error (.trouble (.noModel metric))
    | some model =>
      match adapter.createTable model bucket sowing.store with
      | (.ok _, store) => .ok ⟨(metric, bucket) :: sowing.created, store⟩
      | (.error failure, _) => .error (.ofFailure failure)

def sow (adapter : Relational) (models : List Model) (ranks : List Int32) (sowing : Sowing)
    (seed : Seed) : Except Stop Sowing := do
  let sowing ← prepare adapter models sowing seed.metric seed.record.key.bucket
  let record ← lift (seed.record.setRanks ranks).1.calculate
  match adapter.insert seed.metric [record] sowing.store with
  | (.ok _, store) => .ok { sowing with store }
  | (.error failure, _) => .error (.ofFailure failure)

def sowAll (models : List Model) (ranks : List Int32) (seeds : List Seed) :
    Backend → Except Stop Backend
  | .relational adapter store =>
    (seeds.foldlM (sow adapter models ranks) ⟨[], store⟩).map fun sowing =>
      .relational adapter sowing.store
  | backend => .ok backend

/-- Answers a request over a catalog and records to begin with; the records are read when the
storage is open. -/
def answer (settings : Settings) (entries : List Entry) (seeds : Except Stop (List Seed))
    (request : Request) (bucket : Int64) : Except Stop (List Result) := do
  let catalog ← lift (catalogOf settings entries)
  let backend ← lift (Backend.ofSettings settings (.ofCatalog catalog) ⟨none, none, none⟩)
  let seeds ← seeds
  let backend ← sowAll (entries.map Entry.model) settings.ranks seeds backend
  lift (Service.read catalog Backend.read request bucket backend).1

def checkEngine (settings : Settings) : Except Stop Unit := do
  match ← lift (Engine.ofName settings.engine) with
  | .relational => .ok ()
  | engine => .error (.trouble (.needsClient engine))

def query (files : Settings.Files) (environment : Settings.Environment) (arguments : Arguments) :
    Except Stop (List Result) := do
  let settings ← lift (Settings.load files environment arguments.options)
  checkEngine settings
  let entries ← readValues files arguments.models Entry.shape Entry.ofJson
  let seeds := match arguments.records with
    | some path => readValues files path Seed.shape Seed.ofJson
    | none => .ok []
  answer settings entries seeds ⟨arguments.metrics, arguments.scope⟩ arguments.bucket

def run (files : Settings.Files) (environment : Settings.Environment) (arguments : List String) :
    Except Stop (List Result) := do
  let arguments ← (Arguments.ofList arguments).mapError Stop.usage
  query files environment arguments

def shown (results : List Result) : String :=
  Json.renderPretty (Json.ofList Result.toJson results)

end Tool

end Rollup
