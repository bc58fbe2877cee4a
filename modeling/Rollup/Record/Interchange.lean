import Rollup.Json.Reading
import Rollup.Record.Basic

/-!
Records as JSON objects: the kind, the key and the fields of the measure, side by side. Histograms
stand as their text, and the ranks of a percentile record are read but not written.
-/
namespace Rollup

namespace Record

def Key.toFields (key : Key) : List (String × Json) :=
  ("entity_id", .string key.entity) ::
    (match key.service with
      | some service => [("service_id", .string service)]
      | none => []) ++
    [("time_bucket", Json.ofInt64 key.bucket)]

end Record

def Histogram.toJson (histogram : Histogram) : Json :=
  .string histogram.encode

def Histogram.ofJson (json : Json) : Except Error Histogram := do
  let text ← json.readString
  match Histogram.decode text with
  | .ok histogram => .ok histogram
  | .error fault => .error (.malformed fault.text)

def Measure.toFields : Measure → List (String × Json)
  | average a =>
    [("summation", Json.ofInt64 a.summation), ("count", Json.ofInt64 a.count),
      ("max", Json.ofInt64 a.max), ("min", Json.ofInt64 a.min), ("value", Json.ofInt64 a.value)]
  | percentile p =>
    [("precision", .int p.precision.toNat), ("dataset", p.dataset.toJson),
      ("value", p.values.toJson)]
  | percentage p =>
    [("total", Json.ofInt64 p.total), ("match", Json.ofInt64 p.matched),
      ("percentage", Json.ofInt64 p.percentage)]
  | cpm rate => [("total", Json.ofInt64 rate.total), ("value", Json.ofInt64 rate.value)]
  | sum value => [("value", Json.ofInt64 value)]
  | max value => [("value", Json.ofInt64 value)]

def Kind.fieldNames : Kind → List String
  | .average => ["summation", "count", "max", "min", "value"]
  | .percentile => ["precision", "dataset", "value", "ranks"]
  | .percentage => ["total", "match", "percentage"]
  | .cpm => ["total", "value"]
  | .sum | .max => ["value"]
  | .singleValue => []

def Measure.ofFields (fields : Json.Fields) : Kind → Except Error Measure
  | .average => do
    let summation ← fields.required "summation" Json.readInt64
    let count ← fields.required "count" Json.readInt64
    let max ← fields.required "max" Json.readInt64
    let min ← fields.required "min" Json.readInt64
    let value ← fields.required "value" Json.readInt64
    .ok (.average ⟨summation, count, max, min, value⟩)
  | .percentile => do
    let precision ← fields.required "precision" Json.readUInt32
    let dataset ← fields.required "dataset" Histogram.ofJson
    let values ← fields.required "value" Histogram.ofJson
    let ranks ← fields.withDefault "ranks" Percentile.defaultRanks (Json.readList Json.readInt32)
    .ok (.percentile ⟨precision, dataset, values, ranks⟩)
  | .percentage => do
    let total ← fields.required "total" Json.readInt64
    let matched ← fields.required "match" Json.readInt64
    let percentage ← fields.required "percentage" Json.readInt64
    .ok (.percentage ⟨total, matched, percentage⟩)
  | .cpm => do
    let total ← fields.required "total" Json.readInt64
    let value ← fields.required "value" Json.readInt64
    .ok (.cpm ⟨total, value⟩)
  | .sum => (fields.required "value" Json.readInt64).map .sum
  | .max => (fields.required "value" Json.readInt64).map .max
  | .singleValue => .error (.malformed "a kind with records")

namespace Record

def toJson (record : Record) : Json :=
  .object (("kind", Json.ofKind record.kind) :: (record.key.toFields ++ record.measure.toFields))

def ofJson (json : Json) : Except Error Record := do
  let tag ← json.readObject ["kind"]
  let kind ← tag.required "kind" fun json => do
    match Kind.ofName? (← json.readString) with
    | some kind => .ok kind
    | none => .error (.malformed "a known kind")
  let fields ← json.readObject (["entity_id", "service_id", "time_bucket"] ++ kind.fieldNames)
  let measure ← Measure.ofFields fields kind
  let entity ← fields.required "entity_id" Json.readString
  let service ← fields.optional "service_id" Json.readString
  let bucket ← fields.required "time_bucket" Json.readInt64
  .ok ⟨⟨entity, service, bucket⟩, measure⟩

end Record

end Rollup
