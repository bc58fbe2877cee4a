import Rollup.Settings.Basic
import Rollup.Settings.Tree

/-!
Reading settings from structured values. The sections and their fields are the same wherever the
values come from; what counts as a text or an integer is up to the source. JSON values are taken as
they are, while a tree of settings converts: texts from numbers, integers from texts, switches and
rounded numbers, and integers beyond 32 bits to their low bits.
-/
namespace Rollup

/-- How the parts of settings are read from values of some type. -/
structure Settings.Source (Value : Type) where
  /-- The fields of a section that are there; the list names those it can have, in order. -/
  fields : List String → Value → Except Error (List (String × Value))
  text : Value → Except Error String
  dayStep : Value → Except Error UInt32
  ranks : Value → Except Error (List Int32)
  size : Value → Except Error UInt64
  renames : Value → Except Error Renames
  renamesPerMetric : Value → Except Error (List (String × Renames))

namespace Settings

namespace Source

variable {Value α : Type}

def update (fields : List (String × Value)) (name : String) (read : Value → Except Error α)
    (set : α → Settings → Settings) (settings : Settings) : Except Error Settings :=
  match fields.lookup name with
  | some value => (read value).map fun part => set part settings
  | none => .ok settings

def section? (source : Source Value) (sections : List (String × Value)) (name : String)
    (names : List String) (read : List (String × Value) → Settings → Except Error Settings)
    (settings : Settings) : Except Error Settings :=
  match sections.lookup name with
  | some value => do
    let fields ← source.fields names value
    read fields settings
  | none => .ok settings

/-- Reads the engine, which has to be there, and its connection. -/
def storage (source : Source Value) (value : Value) : Except Error Settings := do
  let fields ← source.fields ["engine", "connection"] value
  match fields.lookup "engine" with
  | none => .error (.malformed "the field engine")
  | some value =>
    let engine ← source.text value
    update fields "connection" source.text
      (fun connection settings => { settings with connection }) (standard engine "")

def naming (source : Source Value) (fields : List (String × Value)) (settings : Settings) :
    Except Error Settings := do
  let settings ← update fields "namespace" source.text
    (fun space settings => { settings with space }) settings
  update fields "day_step" source.dayStep
    (fun dayStep settings => { settings with dayStep }) settings

def query (source : Source Value) (fields : List (String × Value)) (settings : Settings) :
    Except Error Settings := do
  let settings ← update fields "percentile_ranks" source.ranks
    (fun ranks settings => { settings with ranks }) settings
  let settings ← update fields "max_hits" source.size
    (fun maxHits settings => { settings with maxHits }) settings
  update fields "database" source.text
    (fun database settings => { settings with database }) settings

def relational (source : Source Value) (fields : List (String × Value)) (settings : Settings) :
    Except Error Settings := do
  let settings ← update fields "pool_size" source.size
    (fun poolSize settings => { settings with poolSize }) settings
  let settings ← update fields "column_overrides" source.renames
    (fun everywhere settings =>
      { settings with renames := { settings.renames with everywhere } }) settings
  update fields "metric_column_overrides" source.renamesPerMetric
    (fun perMetric settings =>
      { settings with renames := { settings.renames with perMetric } }) settings

/-- Reads settings. The section of the storage has to be there. -/
def read (source : Source Value) (value : Value) : Except Error Settings := do
  let sections ← source.fields ["storage", "naming", "query", "relational"] value
  match sections.lookup "storage" with
  | none => .error (.malformed "the field storage")
  | some storage =>
    let settings ← source.storage storage
    let settings ← source.section? sections "naming" ["namespace", "day_step"] source.naming
      settings
    let settings ← source.section? sections "query" ["percentile_ranks", "max_hits", "database"]
      source.query settings
    source.section? sections "relational"
      ["pool_size", "column_overrides", "metric_column_overrides"] source.relational settings

end Source

/-- Settings in JSON, where nothing is converted. -/
def jsonSource : Source Json where
  fields names json := (json.readFields names).map (·.given)
  text := Json.readString
  dayStep := Json.readUInt32
  ranks := Json.readList Json.readInt32
  size := Json.readUInt64
  renames := Json.readMap Json.readString
  renamesPerMetric := Json.readMap (Json.readMap Json.readString)

def ofJson (json : Json) : Except Error Settings :=
  jsonSource.read json

end Settings

namespace Setting

def refuse {α : Type} (expected : String) : Except Error α :=
  .error (.badSettings s!"expected {expected}")

/-- Numbers as settings are written without an exponent. -/
def floatingLayout : Binary64.Layout :=
  ⟨none, false⟩

def Floating.render : Floating → String
  | finite value => value.render floatingLayout
  | infinite true => "-inf"
  | infinite false => "inf"
  | notANumber => "NaN"

def readText : Setting → Except Error String
  | text value => .ok value
  | integer value => .ok (Numeral.render value.toInt)
  | bool value => .ok (if value then "true" else "false")
  | floating value => .ok value.render
  | null | list _ | table _ => refuse "a text"

/-- The nearest integer between two limits; what is no number counts as zero. -/
def Floating.round (least greatest : Int) : Floating → Int
  | finite value => max least (min value.round greatest)
  | infinite true => least
  | infinite false => greatest
  | notANumber => 0

def switch? (text : String) : Option Bool :=
  let word := String.ofList (text.toList.map Char.toLower)
  if word = "true" ∨ word = "on" ∨ word = "yes" then some true
  else if word = "false" ∨ word = "off" ∨ word = "no" then some false
  else none

def readInt (least greatest : Int) (numeral? : List Char → Option Int) :
    Setting → Except Error Int
  | integer value => within value.toInt
  | bool value => .ok (if value then 1 else 0)
  | floating value => .ok (value.round least greatest)
  | text value =>
    match switch? value, numeral? value.toList with
    | some switch, _ => .ok (if switch then 1 else 0)
    | none, some value => within value
    | none, none => refuse "an integer"
  | null | list _ | table _ => refuse "an integer"
where
  within (value : Int) : Except Error Int :=
    if least ≤ value ∧ value ≤ greatest then .ok value else refuse "an integer within its range"

def readSigned (setting : Setting) : Except Error Int :=
  setting.readInt Amount.least Amount.greatest Numeral.signed?

def readUnsigned (setting : Setting) : Except Error Int :=
  setting.readInt 0 (UInt64.size - 1 : Nat) fun text => (Numeral.unsigned? text).map Int.ofNat

def readList {α : Type} (read : Setting → Except Error α) : Setting → Except Error (List α)
  | list items => items.mapM read
  | _ => refuse "a list"

def readTable {α : Type} (read : Setting → Except Error α) :
    Setting → Except Error (List (String × α))
  | table fields => do
    let fields ← fields.mapM fun (name, value) => do
      let value ← read value
      .ok (name, value)
    .ok (Json.sortFields fields)
  | _ => refuse "a table"

/-- The fields of a section: those of a table, or the items of a list in the order of the names. -/
def readSection (names : List String) : Setting → Except Error (List (String × Setting))
  | table fields => .ok fields
  | list items => .ok (names.zip items)
  | _ => refuse "a section"

end Setting

namespace Settings

/-- Settings in a tree, whose values are converted. -/
def treeSource : Source Setting where
  fields := Setting.readSection
  text := Setting.readText
  dayStep setting := setting.readUnsigned.map fun value => UInt32.ofNat value.toNat
  ranks := Setting.readList fun setting => setting.readSigned.map Int32.ofInt
  size setting := setting.readUnsigned.map fun value => UInt64.ofNat value.toNat
  renames := Setting.readTable Setting.readText
  renamesPerMetric := Setting.readTable (Setting.readTable Setting.readText)

/-- Reads settings from a tree. Whatever does not fit is a fault of the settings. -/
def ofTree (tree : Setting) : Except Error Settings :=
  (treeSource.read tree).mapError fun error =>
    match error with
    | .malformed expected => .badSettings s!"expected {expected}"
    | error => error

end Settings

end Rollup
