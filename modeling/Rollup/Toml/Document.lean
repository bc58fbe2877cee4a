import Rollup.Settings.Tree

/-!
The tables of a TOML text as they are defined line by line. Every table remembers how it came into
being, because that decides what may still be added to it: a header opens a table once, a dotted
key adds to a table that dotted keys have made, and nothing adds to a finished value.
-/
namespace Rollup

namespace Toml

/-- How a table came into being: on the way to another header, by its own header, or by a dotted
key. -/
inductive Origin
  | implied
  | header
  | dotted
deriving DecidableEq, Repr

inductive Node
  | value (value : Setting)
  | table (origin : Origin) (fields : List (String × Node))
  /-- Tables under one repeated header, the latest first. -/
  | tables (items : List Node)
deriving Repr

abbrev Fields := List (String × Node)

namespace Node

mutual

def toSetting : Node → Setting
  | .value setting => setting
  | .table _ fields => .table (toFields fields)
  | .tables items => .list (toItems items [])

def toFields : List (String × Node) → List (String × Setting)
  | [] => []
  | (name, node) :: rest => (name, toSetting node) :: toFields rest

/-- The settings of some tables, in reverse, before others. -/
def toItems : List Node → List Setting → List Setting
  | [], later => later
  | node :: rest, later => toItems rest (toSetting node :: later)

end

end Node

namespace Fields

/-- Opens the table of a header, or one more table of a repeated one. -/
def openTable (repeated : Bool) : List String → Fields → Option Fields
  | [], _ => none
  | [name], fields =>
    match fields.lookup name with
    | none =>
      let table := Node.table .header []
      some (putUnder name (if repeated then .tables [table] else table) fields)
    | some (.table .implied below) =>
      if repeated then none else some (putUnder name (.table .header below) fields)
    | some (.tables items) =>
      if repeated then some (putUnder name (.tables (.table .header [] :: items)) fields) else none
    | some _ => none
  | name :: rest, fields =>
    match fields.lookup name with
    | none => do
      let below ← openTable repeated rest []
      some (putUnder name (.table .implied below) fields)
    | some (.table .implied below) => do
      let below ← openTable repeated rest below
      some (putUnder name (.table .implied below) fields)
    | some (.table .header below) => do
      let below ← openTable repeated rest below
      some (putUnder name (.table .header below) fields)
    | some (.tables (.table origin below :: items)) => do
      let below ← openTable repeated rest below
      some (putUnder name (.tables (.table origin below :: items)) fields)
    | some _ => none

/-- Defines a key, which may be dotted. -/
def define (value : Setting) : List String → Fields → Option Fields
  | [], _ => none
  | [name], fields =>
    match fields.lookup name with
    | none => some (putUnder name (.value value) fields)
    | some _ => none
  | name :: rest, fields =>
    match fields.lookup name with
    | none => do
      let below ← define value rest []
      some (putUnder name (.table .dotted below) fields)
    | some (.table .dotted below) => do
      let below ← define value rest below
      some (putUnder name (.table .dotted below) fields)
    | some _ => none

def defineIn (key : List String) (value : Setting) : List String → Fields → Option Fields
  | [], fields => define value key fields
  | name :: rest, fields =>
    match fields.lookup name with
    | some (.table origin below) => do
      let below ← defineIn key value rest below
      some (putUnder name (.table origin below) fields)
    | some (.tables (.table origin below :: items)) => do
      let below ← defineIn key value rest below
      some (putUnder name (.tables (.table origin below :: items)) fields)
    | _ => none

end Fields

end Toml

end Rollup
