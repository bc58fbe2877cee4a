import Rollup.Proofs.Json.FlatTexts
import Rollup.Proofs.Percentile.Cursor
import Rollup.Proofs.Record.Interleaving

/-!
Records come back from what is written of them. Every step keeps the counts of both histograms of
a percentile record from being negative, so their texts can be read again, and the fields of any
record are found under their names. Main statement: `reachable_records_reload`.
-/
namespace Rollup

namespace Json

theorem readInt64_ofInt64 (value : Int64) : readInt64 (ofInt64 value) = .ok value := by
  have range := And.intro (Amount.least_le_toInt value) (Amount.toInt_le_greatest value)
  simp only [readInt64, ofInt64, Json.int, readInt, if_pos range, Except.map, Int64.ofInt_toInt]

theorem readUInt32_int (value : UInt32) : readUInt32 (.int value.toNat) = .ok value := by
  have range : (0 : Int) ≤ value.toNat ∧ (value.toNat : Int) ≤ (UInt32.size - 1 : Nat) := by
    have below := value.toNat_lt_size
    omega
  simp only [readUInt32, Json.int, readInt, if_pos range, Except.map, Int.toNat_natCast,
    UInt32.ofNat_toNat]

/-- Of fields with different names none is given twice. -/
theorem hasRepeated_eq_false {fields : List (String × Json)} (distinct : (fields.map (·.1)).Nodup)
    (names : List String) : hasRepeated names fields = false := by
  rw [hasRepeated, List.any_eq_false]
  intro name _ repeated
  have once := List.nodup_iff_count_le_one.1 distinct name
  rw [List.count, List.countP_map, List.countP_eq_length_filter] at once
  exact absurd (of_decide_eq_true repeated) (Nat.not_lt.2 once)

theorem Fields.required_eq {α : Type} {fields : Fields} {name : String} {json : Json}
    (found : fields.get? name = some json) (read : Json → Except Error α) :
    fields.required name read = read json := by
  rw [required, found]

end Json

theorem Kind.ofName?_name (kind : Kind) : ofName? kind.name = some kind := by
  cases kind <;> decide

theorem Histogram.ofJson_toJson {histogram : Histogram} (h : histogram.Counted) :
    ofJson histogram.toJson = .ok histogram := by
  simp only [ofJson, toJson, Json.readString, Except.ok_bind, h.decode_encode]

theorem Histogram.counted_of_ofJson {json : Json} {histogram : Histogram}
    (read : ofJson json = .ok histogram) : histogram.Counted := by
  obtain ⟨text, -, read⟩ := Except.bind_eq_ok_iff.1 read
  split at read
  · next decoded =>
    cases read
    exact counted_of_decode decoded
  · contradiction

structure Percentile.Counted (percentile : Percentile) : Prop where
  dataset : percentile.dataset.Counted
  values : percentile.values.Counted

def Record.keyNames : List String :=
  ["kind", "entity_id", "service_id", "time_bucket"]

namespace Measure

def Counted : Measure → Prop
  | percentile p => p.Counted
  | _ => True

/-- A measure with the ranks that are not written set to the default ones. -/
def withDefaultRanks : Measure → Measure
  | percentile p => percentile { p with ranks := Percentile.defaultRanks }
  | m => m

theorem counted_empty {precision : UInt32} {ranks : List Int32} {kind : Kind} {m : Measure}
    (made : empty precision ranks kind = .ok m) : m.Counted := by
  cases kind with
  | percentile =>
    cases made
    exact ⟨nofun, nofun⟩
  | singleValue => contradiction
  | _ =>
    cases made
    trivial

theorem Counted.feed {m fed : Measure} (h : m.Counted) {f : Feed} (step : m.feed f = .ok fed) :
    fed.Counted := by
  cases m with
  | percentile p =>
    cases f with
    | observed value =>
      obtain ⟨own, taken, eq⟩ := Except.bind_eq_ok_iff.1 step
      cases eq
      rw [Percentile.feed] at taken
      split at taken
      · contradiction
      · cases taken
        exact ⟨h.dataset.increment _ (by decide), h.values⟩
    | _ => contradiction
  | _ =>
    cases f <;> cases step <;> trivial

theorem Counted.merge {m other merged : Measure} (h : m.Counted) (h' : other.Counted)
    (step : m.merge other = .ok merged) : merged.Counted := by
  cases m with
  | percentile p =>
    cases other with
    | percentile q =>
      cases step
      exact ⟨h.dataset.append h'.dataset, h.values⟩
    | _ => contradiction
  | _ =>
    cases other <;> cases step
    trivial

theorem Counted.calculate {m derived : Measure} (h : m.Counted) {key : Record.Key}
    (step : m.calculate key = .ok derived) : derived.Counted := by
  cases m with
  | percentile p =>
    obtain ⟨own, calculated, eq⟩ := Except.bind_eq_ok_iff.1 step
    cases eq
    refine ⟨?_, Percentile.counted_of_calculate calculated⟩
    rw [Percentile.eq_of_calculate calculated]
    exact h.dataset
  | sum | max =>
    cases step
    trivial
  | average | percentage | cpm =>
    obtain ⟨own, -, eq⟩ := Except.bind_eq_ok_iff.1 step
    cases eq
    trivial

theorem counted_ofFields {fields : Json.Fields} {kind : Kind} {m : Measure}
    (read : ofFields fields kind = .ok m) : m.Counted := by
  cases m with
  | percentile p =>
    cases kind with
    | percentile =>
      obtain ⟨precision, -, read⟩ := Except.bind_eq_ok_iff.1 read
      obtain ⟨dataset, first, read⟩ := Except.bind_eq_ok_iff.1 read
      obtain ⟨values, second, read⟩ := Except.bind_eq_ok_iff.1 read
      obtain ⟨ranks, -, eq⟩ := Except.bind_eq_ok_iff.1 read
      cases eq
      have countedFrom {name : String} {histogram : Histogram}
          (read : fields.required name Histogram.ofJson = .ok histogram) : histogram.Counted := by
        rw [Json.Fields.required] at read
        split at read
        · exact Histogram.counted_of_ofJson read
        · contradiction
      exact ⟨countedFrom first, countedFrom second⟩
    | _ => simp [ofFields, Except.bind_eq_ok_iff, Except.map_eq_ok_iff] at read
  | _ => trivial

/-- Where no name of the key hides a field, the fields of a measure are read back. -/
theorem ofFields_toFields {m : Measure} (h : m.Counted) {fields : Json.Fields}
    (found : ∀ name ∉ Record.keyNames, fields.get? name = m.toFields.lookup name) :
    ofFields fields m.kind = .ok m.withDefaultRanks := by
  have amount (name : String) (other : name ∉ Record.keyNames) {value : Int64}
      (own : m.toFields.lookup name = some (Json.ofInt64 value)) :
      fields.required name Json.readInt64 = .ok value := by
    rw [Json.Fields.required_eq ((found name other).trans own), Json.readInt64_ofInt64]
  cases m with
  | average a =>
    rw [kind, ofFields, amount "summation" (by decide) rfl, amount "count" (by decide) rfl,
      amount "max" (by decide) rfl, amount "min" (by decide) rfl, amount "value" (by decide) rfl]
    rfl
  | percentile p =>
    have precision : fields.required "precision" Json.readUInt32 = .ok p.precision := by
      rw [Json.Fields.required_eq ((found "precision" (by decide)).trans rfl), Json.readUInt32_int]
    have dataset : fields.required "dataset" Histogram.ofJson = .ok p.dataset := by
      rw [Json.Fields.required_eq ((found "dataset" (by decide)).trans rfl),
        Histogram.ofJson_toJson h.dataset]
    have values : fields.required "value" Histogram.ofJson = .ok p.values := by
      rw [Json.Fields.required_eq ((found "value" (by decide)).trans rfl),
        Histogram.ofJson_toJson h.values]
    have ranks : fields.get? "ranks" = none := found "ranks" (by decide)
    rw [kind, ofFields, precision, dataset, values, Json.Fields.withDefault, ranks]
    rfl
  | percentage p =>
    rw [kind, ofFields, amount "total" (by decide) rfl, amount "match" (by decide) rfl,
      amount "percentage" (by decide) rfl]
    rfl
  | cpm rate =>
    rw [kind, ofFields, amount "total" (by decide) rfl, amount "value" (by decide) rfl]
    rfl
  | sum value | max value =>
    rw [kind, ofFields, amount "value" (by decide) rfl]
    rfl

end Measure

namespace Record

def Counted (record : Record) : Prop :=
  record.measure.Counted

/-- What is left of a record when it is written and read again. -/
def reloaded (record : Record) : Record :=
  { record with measure := record.measure.withDefaultRanks }

def toFields (record : Record) : List (String × Json) :=
  ("kind", Json.ofKind record.kind) :: (record.key.toFields ++ record.measure.toFields)

theorem nodup_toFields (record : Record) : (record.toFields.map (·.1)).Nodup := by
  obtain ⟨⟨entity, service, bucket⟩, measure⟩ := record
  cases service <;> cases measure <;> simp [toFields, Key.toFields, Measure.toFields]

theorem plain_toFields (record : Record) : ∀ field ∈ record.toFields, field.2.Plain := by
  have string (text : String) : (Json.string text).Plain := trivial
  obtain ⟨⟨entity, service, bucket⟩, measure⟩ := record
  cases service <;> cases measure <;>
    simp [toFields, Key.toFields, Measure.toFields, Json.ofKind, Json.ofInt64, Histogram.toJson,
      string, Json.plain_ofInt64, Json.plain_ofUInt32]

theorem readObject_toJson (record : Record) (names : List String) :
    record.toJson.readObject names = .ok ⟨record.toFields⟩ :=
  if_neg (Bool.eq_false_iff.1 (Json.hasRepeated_eq_false record.nodup_toFields names))

theorem lookup_toFields (record : Record) {name : String} (other : name ∉ keyNames) :
    record.toFields.lookup name = record.measure.toFields.lookup name := by
  obtain ⟨⟨entity, service, bucket⟩, measure⟩ := record
  simp only [keyNames, List.mem_cons, List.not_mem_nil, or_false, not_or] at other
  obtain ⟨kind, own, owner, time⟩ := other
  cases service <;> simp [toFields, Key.toFields, List.lookup_cons, beq_eq_false_iff_ne.2, *]

theorem lookup_service (record : Record) :
    record.toFields.lookup "service_id" = record.key.service.map .string := by
  obtain ⟨⟨entity, service, bucket⟩, measure⟩ := record
  cases service with
  | some service => rfl
  | none => cases measure <;> rfl

theorem lookup_bucket (record : Record) :
    record.toFields.lookup "time_bucket" = some (Json.ofInt64 record.key.bucket) := by
  obtain ⟨⟨entity, service, bucket⟩, measure⟩ := record
  cases service <;> rfl

theorem ofJson_toJson {record : Record} (h : record.Counted) :
    ofJson record.toJson = .ok record.reloaded := by
  let fields : Json.Fields := ⟨record.toFields⟩
  have tagged : fields.get? "kind" = some (.string record.kind.name) := rfl
  have named : fields.get? "entity_id" = some (.string record.key.entity) := rfl
  have timed : fields.get? "time_bucket" = some (Json.ofInt64 record.key.bucket) :=
    record.lookup_bucket
  have measure : Measure.ofFields fields record.kind = .ok record.measure.withDefaultRanks :=
    Measure.ofFields_toFields h fun name other => record.lookup_toFields other
  have entity : fields.required "entity_id" Json.readString = .ok record.key.entity :=
    Json.Fields.required_eq named _
  have service : fields.optional "service_id" Json.readString = .ok record.key.service := by
    rw [Json.Fields.optional, Json.Fields.withDefault, Json.Fields.get?, lookup_service]
    cases record.key.service <;> rfl
  have bucket : fields.required "time_bucket" Json.readInt64 = .ok record.key.bucket := by
    rw [Json.Fields.required_eq timed, Json.readInt64_ofInt64]
  rw [ofJson, readObject_toJson, Except.ok_bind, Json.Fields.required_eq tagged]
  simp only [Json.readString, Except.ok_bind, Kind.ofName?_name, readObject_toJson]
  rw [measure, entity, service, bucket]
  rfl

/-- A record as it is written: the kind, the fields of the key beside those of the measure, the
service only when there is one, and histograms as their texts. -/
structure Written (record : Record) (json : Json) : Prop where
  kind : json.get? "kind" = some (.string record.kind.name)
  entity : json.get? "entity_id" = some (.string record.key.entity)
  service : json.get? "service_id" = record.key.service.map .string
  bucket : json.get? "time_bucket" = some (.int record.key.bucket.toInt)
  percentile : ∀ p, record.measure = .percentile p →
    json.get? "dataset" = some (.string p.dataset.encode) ∧
      json.get? "value" = some (.string p.values.encode) ∧ json.get? "ranks" = none

theorem written_toJson (record : Record) : Written record record.toJson where
  kind := rfl
  entity := rfl
  service := record.lookup_service
  bucket := record.lookup_bucket
  percentile := by
    intro p eq
    have found (name : String) (other : name ∉ keyNames) :
        record.toJson.get? name = (Measure.percentile p).toFields.lookup name :=
      eq ▸ record.lookup_toFields other
    exact ⟨found "dataset" (by decide), found "value" (by decide), found "ranks" (by decide)⟩

namespace Counted

variable {record other : Record}

theorem feeds {feeds : List Feed} {fed : Record} (h : record.Counted)
    (step : feeds.foldlM feed record = .ok fed) : fed.Counted := by
  induction feeds generalizing record with
  | nil =>
    cases step
    exact h
  | cons f rest ih =>
    rw [List.foldlM_cons] at step
    obtain ⟨next, here, later⟩ := Except.bind_eq_ok_iff.1 step
    obtain ⟨measure, taken, eq⟩ := Except.bind_eq_ok_iff.1 here
    cases eq
    exact ih (Measure.Counted.feed h taken) later

theorem combine {combined : Record} (h : record.Counted) (h' : other.Counted)
    (step : record.combine other = .ok combined) : combined.Counted := by
  obtain ⟨measure, merged, rfl⟩ := Except.map_eq_ok_iff.1 step
  exact Measure.Counted.merge h h' merged

theorem calculate {derived : Record} (h : record.Counted)
    (step : record.calculate = .ok derived) : derived.Counted := by
  obtain ⟨measure, calculated, eq⟩ := Except.bind_eq_ok_iff.1 step
  cases eq
  exact Measure.Counted.calculate h calculated

/-- The key plays no part. -/
theorem moved {key : Except Error Key} {moved : Record} (h : record.Counted)
    (step : (key.map fun key => { record with key }) = .ok moved) : moved.Counted := by
  obtain ⟨key, -, rfl⟩ := Except.map_eq_ok_iff.1 step
  exact h

theorem setRanks (h : record.Counted) (ranks : List Int32) :
    (record.setRanks ranks).1.Counted := by
  rw [Record.setRanks]
  split
  · next p eq =>
    have own : (Measure.percentile p).Counted := eq ▸ h
    split
    · exact h
    · exact ⟨own.dataset, own.values⟩
  · exact h

end Counted

theorem counted_empty {kind : Kind} {key : Key} {precision : UInt32} {ranks : List Int32}
    {record : Record} (made : empty kind key precision ranks = .ok record) : record.Counted := by
  obtain ⟨measure, blank, rfl⟩ := Except.map_eq_ok_iff.1 made
  exact Measure.counted_empty blank

theorem counted_ofJson {json : Json} {record : Record} (read : ofJson json = .ok record) :
    record.Counted := by
  obtain ⟨tag, -, read⟩ := Except.bind_eq_ok_iff.1 read
  obtain ⟨kind, -, read⟩ := Except.bind_eq_ok_iff.1 read
  obtain ⟨fields, -, read⟩ := Except.bind_eq_ok_iff.1 read
  obtain ⟨measure, own, read⟩ := Except.bind_eq_ok_iff.1 read
  obtain ⟨entity, -, read⟩ := Except.bind_eq_ok_iff.1 read
  obtain ⟨service, -, read⟩ := Except.bind_eq_ok_iff.1 read
  obtain ⟨bucket, -, eq⟩ := Except.bind_eq_ok_iff.1 read
  cases eq
  exact Measure.counted_ofFields own

def Slots.Counted (slots : Slots) : Prop :=
  ∀ slot record, slots.get? slot = some record → record.Counted

theorem Slots.Counted.get {slots : Slots} (h : slots.Counted) {slot : String} {record : Record}
    (held : Outcome.ofExcept (slots.get slot) = .ok record) : record.Counted := by
  have held := Outcome.ofExcept_eq_ok_iff.1 held
  rw [Slots.get] at held
  split at held
  · next present =>
    cases held
    exact h slot _ present
  · contradiction

/-- Whatever a step puts into a slot has no negative count, if nothing had one before. -/
theorem Step.counted_result {slots : Slots} (h : slots.Counted) {step : Step} {record : Record}
    {answer : Answer} (made : step.result slots = .ok (record, answer)) : record.Counted := by
  cases step with
  | new slot kind key precision ranks =>
    obtain ⟨own, blank, eq⟩ := Except.bind_eq_ok_iff.1 made
    cases eq
    exact counted_empty (Outcome.ofExcept_eq_ok_iff.1 blank)
  | load slot json =>
    obtain ⟨own, read, eq⟩ := Except.bind_eq_ok_iff.1 made
    cases eq
    exact counted_ofJson (Outcome.ofExcept_eq_ok_iff.1 read)
  | feed slot feeds =>
    obtain ⟨held, found, made⟩ := Except.bind_eq_ok_iff.1 made
    obtain ⟨own, fed, eq⟩ := Except.bind_eq_ok_iff.1 made
    cases eq
    exact (h.get found).feeds fed
  | combine slot source =>
    obtain ⟨held, found, made⟩ := Except.bind_eq_ok_iff.1 made
    obtain ⟨other, taken, made⟩ := Except.bind_eq_ok_iff.1 made
    obtain ⟨own, combined, eq⟩ := Except.bind_eq_ok_iff.1 made
    cases eq
    exact (h.get found).combine (h.get taken) (Outcome.ofExcept_eq_ok_iff.1 combined)
  | calculate slot =>
    obtain ⟨held, found, made⟩ := Except.bind_eq_ok_iff.1 made
    obtain ⟨own, calculated, eq⟩ := Except.bind_eq_ok_iff.1 made
    cases eq
    exact (h.get found).calculate calculated
  | toHour slot source =>
    obtain ⟨held, found, made⟩ := Except.bind_eq_ok_iff.1 made
    obtain ⟨own, moved, eq⟩ := Except.bind_eq_ok_iff.1 made
    cases eq
    exact (h.get found).moved (Outcome.ofExcept_eq_ok_iff.1 moved)
  | toDay slot source =>
    obtain ⟨held, found, made⟩ := Except.bind_eq_ok_iff.1 made
    obtain ⟨own, moved, eq⟩ := Except.bind_eq_ok_iff.1 made
    cases eq
    exact (h.get found).moved (Outcome.ofExcept_eq_ok_iff.1 moved)
  | setRanks slot ranks =>
    obtain ⟨held, found, eq⟩ := Except.bind_eq_ok_iff.1 made
    cases eq
    exact (h.get found).setRanks ranks

theorem Step.counted_run {slots : Slots} (h : slots.Counted) (step : Step) :
    Slots.Counted (step.run slots).2 := by
  rw [run]
  split
  · next made =>
    intro slot record held
    rw [Slots.get?_put] at held
    split at held
    · cases held
      exact counted_result h made
    · exact h slot record held
  · exact h

theorem counted_runAll {slots final : Slots} (h : slots.Counted) {steps : List Step}
    {transcript : Transcript} (ran : runAll slots steps = .ok (transcript, final)) :
    final.Counted := by
  induction steps generalizing slots transcript with
  | nil =>
    cases ran
    exact h
  | cons step steps ih =>
    obtain ⟨answer, rest, -, later, -⟩ := runAll_cons_eq_ok_iff.1 ran
    exact ih (Step.counted_run h step) later

/-- The text of every record that steps can bring about can be parsed and read. It holds the record
in its written form, and what is read is this record with the default ranks in place of its own. No
histogram in it has a negative count, so that the texts of both are read as these histograms. -/
theorem reachable_records_reload {steps : List Step} {transcript : Transcript} {slots : Slots}
    (ran : runAll [] steps = .ok (transcript, slots)) {slot : String} {record : Record}
    (held : slots.get? slot = some record) :
    (∃ json, Json.parseShaped? .all record.toJson.render = some json ∧ Written record json ∧
      ofJson json = .ok record.reloaded) ∧
    ∀ p, record.measure = .percentile p → p.dataset.Counted ∧ p.values.Counted ∧
      Histogram.decode p.dataset.encode = .ok p.dataset ∧
      Histogram.decode p.values.encode = .ok p.values := by
  have none : Slots.Counted [] := fun _ _ held => absurd held.symm (Option.some_ne_none _)
  have counted : record.Counted := counted_runAll none ran slot record held
  refine ⟨⟨record.toJson, Json.parseShaped?_render record.plain_toFields, record.written_toJson,
    ofJson_toJson counted⟩, fun p eq => ?_⟩
  rw [Record.Counted, eq] at counted
  exact ⟨counted.dataset, counted.values, counted.dataset.decode_encode,
    counted.values.decode_encode⟩

/-- A percentile record with one rank of its own, calculated and moved to its hour. -/
theorem reachable_records_reload_percentile :
    let calculated (ranks : List Int32) : Measure :=
      .percentile ⟨10, .ofList [(0, 1), (3, 1)], .ofList [(0, 0)], ranks⟩
    let record : Record := ⟨⟨"e", none, 2024010112⟩, calculated [50]⟩
    (∃ transcript, runAll [] [.new "a" .percentile ⟨"e", none, 202401011230⟩ 10 [50],
        .feed "a" [.observed 7, .observed 35], .calculate "a", .toHour "b" "a"] =
      .ok (transcript, [("b", record), ("a", ⟨⟨"e", none, 202401011230⟩, calculated [50]⟩)])) ∧
    ∃ json, Json.parseShaped? .all record.toJson.render = some json ∧ Written record json ∧
      ofJson json = .ok ⟨record.key, calculated Percentile.defaultRanks⟩ := by
  intro calculated record
  have ran : runAll [] [.new "a" .percentile ⟨"e", none, 202401011230⟩ 10 [50],
      .feed "a" [.observed 7, .observed 35], .calculate "a", .toHour "b" "a"] =
    .ok ([(.new "a" .percentile ⟨"e", none, 202401011230⟩ 10 [50], .ok .done),
        (.feed "a" [.observed 7, .observed 35], .ok .done), (.calculate "a", .ok .done),
        (.toHour "b" "a", .ok .done)],
      [("b", record), ("a", ⟨⟨"e", none, 202401011230⟩, calculated [50]⟩)]) := rfl
  exact ⟨⟨_, ran⟩, (@reachable_records_reload _ _ _ ran "b" record rfl).1⟩

end Record

end Rollup
