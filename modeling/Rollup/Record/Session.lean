import Rollup.Record.Interchange

/-!
Runs of steps over named slots, each of which holds at most one record. A step that fails with an
error leaves all slots as they were.
-/
namespace Rollup

namespace Record

abbrev Slots := List (String × Record)

namespace Slots

def get? (slots : Slots) (slot : String) : Option Record :=
  slots.lookup slot

def put (slots : Slots) (slot : String) (record : Record) : Slots :=
  (slot, record) :: slots.filter (·.1 ≠ slot)

def get (slots : Slots) (slot : String) : Except Error Record :=
  match slots.get? slot with
  | some record => .ok record
  | none => .error (.malformed "a filled slot")

end Slots

inductive Step
  | new (slot : String) (kind : Kind) (key : Key) (precision : UInt32) (ranks : List Int32)
  | load (slot : String) (json : Json)
  | feed (slot : String) (feeds : List Feed)
  | combine (slot source : String)
  | calculate (slot : String)
  | toHour (slot source : String)
  | toDay (slot source : String)
  | setRanks (slot : String) (ranks : List Int32)
deriving Repr

inductive Answer
  | done
  | changed (changed : Bool)
deriving DecidableEq, Repr

namespace Step

def slot : Step → String
  | new slot _ _ _ _ | load slot _ | feed slot _ | combine slot _ | calculate slot
  | toHour slot _ | toDay slot _ | setRanks slot _ => slot

/-- The record that a step puts into its slot, and the answer. -/
def result (slots : Slots) : Step → Outcome (Record × Answer)
  | new _ kind key precision ranks => do
    let record ← Record.empty kind key precision ranks
    .ok (record, .done)
  | load _ json => do
    let record ← Record.ofJson json
    .ok (record, .done)
  | feed slot feeds => do
    let record ← slots.get slot
    let record ← feeds.foldlM Record.feed record
    .ok (record, .done)
  | combine slot source => do
    let record ← slots.get slot
    let other ← slots.get source
    let record ← record.combine other
    .ok (record, .done)
  | calculate slot => do
    let record ← slots.get slot
    let record ← record.calculate
    .ok (record, .done)
  | toHour _ source => do
    let record ← slots.get source
    let record ← record.toHour
    .ok (record, .done)
  | toDay _ source => do
    let record ← slots.get source
    let record ← record.toDay
    .ok (record, .done)
  | setRanks slot ranks => do
    let record ← slots.get slot
    let (record, changed) := record.setRanks ranks
    .ok (record, .changed changed)

def run (slots : Slots) (step : Step) : Outcome Answer × Slots :=
  match step.result slots with
  | .ok (record, answer) => (.ok answer, slots.put step.slot record)
  | .error failure => (.error failure, slots)

end Step

end Record

end Rollup
