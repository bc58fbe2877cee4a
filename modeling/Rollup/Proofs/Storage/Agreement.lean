import Rollup.Proofs.Storage.Document
import Rollup.Storage.TimeSeries

/-!
A document store and a time-series database that return the same rows. Main statement:
`adapters_agree`, both adapters make the same answer of them, error or results, unless a column
that is read is stored under the name of the record id: rows of a series have such a column, the
sources of documents do not.
-/
namespace Rollup

/-- A stored row of a requested metric: the id of its record and the other fields. -/
structure StoredRow (names : List String) where
  metric : String
  id : String
  fields : List (String × Json)
  requested : metric ∈ names
  distinct : (fields.map (·.1)).Nodup
  unkeyed : keyColumns.id ∉ fields.map (·.1)

namespace StoredRow

variable {names : List String}

def columns (row : StoredRow names) : List (String × Json) :=
  (keyColumns.id, .string row.id) :: row.fields

theorem distinct_columns (row : StoredRow names) : (row.columns.map (·.1)).Nodup :=
  List.nodup_cons.2 ⟨row.unkeyed, row.distinct⟩

/-- What a row says under the label of its metric, nothing if its id is empty. -/
def read (context : Context) (label : String → String) (row : StoredRow names) :
    Except Error (Option (String × ValueSet)) :=
  if row.id = "" then .ok none
  else (Decoder.decode context (label row.metric) (.ofFields row.fields)).map fun set =>
    some (row.id, set)

end StoredRow

/-- Items that show rows, each of them the next few. -/
def Spread {α β : Type} (shows : α → List β → Prop) (items : List α) (rows : List β) : Prop :=
  ∃ parts, parts.flatten = rows ∧ List.Forall₂ shows items parts

structure Document.Hit.Shows (adapter : Document.Adapter) (bucket : Int64) {names : List String}
    (hit : Document.Hit) (row : StoredRow names) : Prop where
  index : adapter.Stores bucket row.metric hit.index
  id : hit.id = row.id
  source : hit.source = row.fields

namespace TimeSeries

/-- A series that shows rows of one measurement. -/
structure Series.Shows (adapter : Adapter) {names : List String} (series : Series)
    (rows : List (StoredRow names)) : Prop where
  requested : ∃ metric ∈ names, adapter.client.format metric = series.name
  rows : List.Forall₂ (fun values row => adapter.client.format row.metric = series.name ∧
    series.columns.length = values.length ∧
    (series.columns.zip values).Perm row.columns) series.rows rows

/-- A statement that did not fail and shows rows. -/
structure StatementResult.Shows (adapter : Adapter) {names : List String}
    (result : StatementResult) (rows : List (StoredRow names)) : Prop where
  succeeded : result.error = none
  series : Spread (Series.Shows adapter) result.series rows

def Adapter.commandFor (adapter : Adapter) (request : Request) (bucket : Int64) : String :=
  command adapter.database (request.names.map adapter.client.format) request.scope bucket

end TimeSeries

/-- Two storages under one context that answer a request with the same rows in the same order. -/
structure SameRows (document : Document.Adapter) (timeSeries : TimeSeries.Adapter)
    (request : Request) (bucket : Int64) (rows : List (StoredRow request.names)) : Prop where
  context : document.context = timeSeries.context
  hits : ∃ names hits,
    PhysicalNames.ofRequest request.names bucket.toInt document.context.dayStep = .ok names ∧
    document.client.search (document.searchFor request bucket names) = .ok hits ∧
    List.Forall₂ (Document.Hit.Shows document bucket) hits rows
  series : ∃ results,
    timeSeries.client.query (timeSeries.commandFor request bucket) = .ok results ∧
    Spread (TimeSeries.StatementResult.Shows timeSeries) results rows

def labelOf (names : List String) (spell : String → String) (name : String) : String :=
  (names.reverse.find? fun other => spell name == spell other).getD name

section Labels

variable {names : List String} {spell : String → String} {name : String}

theorem find?_spelled (spell : String → String) (mem : name ∈ names) :
    (names.reverse.find? fun other => spell name == spell other) =
      some (labelOf names spell name) := by
  rw [labelOf]
  cases found : names.reverse.find? fun other => spell name == spell other with
  | none =>
    have own := List.find?_eq_none.1 found name (List.mem_reverse.2 mem)
    exact absurd (beq_self_eq_true _) own
  | some other => rfl

theorem labelOf_mem (mem : name ∈ names) : labelOf names spell name ∈ names :=
  List.mem_reverse.1 (List.mem_of_find?_eq_some (find?_spelled _ mem))

theorem labelOf_eq_of_spelled {other : String} (mem : name ∈ names) (too : other ∈ names)
    (same : spell name = spell other) : labelOf names spell name = labelOf names spell other := by
  have found := find?_spelled spell mem
  rw [same, find?_spelled spell too] at found
  exact (Option.some.inj found).symm

theorem labelOf_congr {other : String → String}
    (alike : ∀ a ∈ names, ∀ b ∈ names, spell a = spell b ↔ other a = other b)
    (mem : name ∈ names) : labelOf names spell name = labelOf names other name := by
  have same : names.reverse.filter (fun b => spell name == spell b) =
      names.reverse.filter (fun b => other name == other b) := by
    refine List.filter_congr fun b listed => ?_
    rw [Bool.eq_iff_iff, beq_iff_eq, beq_iff_eq]
    exact alike name mem b (List.mem_reverse.1 listed)
  rw [labelOf, labelOf, ← List.head?_filter, ← List.head?_filter, same]

end Labels

variable {document : Document.Adapter} {timeSeries : TimeSeries.Adapter} {request : Request}
  {bucket : Int64} {rows : List (StoredRow request.names)}

namespace Document

section Rows

variable {names : PhysicalNames} {tail : String}
  (listed : names.names = request.names.map fun metric => (metric, metric ++ tail))
  (named : ∀ metric ∈ request.names, ∀ physical,
    PhysicalNames.Names document.context.dayStep bucket.toInt metric physical ↔
      metric ++ tail = physical)

include listed named

theorem metric?_of_stores {metric index : String} (mem : metric ∈ request.names)
    (stored : document.Stores bucket metric index) :
    names.metric? document.client.format index =
      some (labelOf request.names (fun name => document.client.format (name ++ tail)) metric) := by
  rw [← (stores_iff named mem).1 stored, PhysicalNames.metric?_eq_find? listed]
  exact find?_spelled (fun name => document.client.format (name ++ tail)) mem

theorem readHits_shown {hits : List Hit}
    (shown : List.Forall₂ (Hit.Shows document bucket) hits rows) :
    readHits document.context (names.metric? document.client.format) request bucket hits =
      ((rows.mapM (StoredRow.read document.context
        (labelOf request.names fun name => document.client.format (name ++ tail)))).map
          (List.filterMap id)).map (Result.collect request.scope bucket) := by
  have read : hits.mapM (readHit document.context (names.metric? document.client.format)) =
      rows.mapM (StoredRow.read document.context
        (labelOf request.names fun name => document.client.format (name ++ tail))) := by
    refine Except.mapM_congr (shown.imp fun hit row shows => ?_)
    rw [readHit, StoredRow.read, shows.id, shows.source,
      metric?_of_stores listed named row.requested shows.index]
    dsimp only
    rw [Except.bind_ok_eq_map]
  rw [readHits, read]
  cases rows.mapM (StoredRow.read document.context _) <;> rfl

end Rows

end Document

namespace TimeSeries

theorem metric?_of_spelled {names : List String} {metric : String} (mem : metric ∈ names) :
    timeSeries.metric? names (timeSeries.client.format metric) =
      some (labelOf names timeSeries.client.format metric) := by
  rw [Adapter.metric?, ← List.map_reverse]
  exact (lookup_map_key timeSeries.client.format _ _).trans (find?_spelled _ mem)

variable (unread : ∀ metric ∈ request.names,
  ¬ Decoder.Reads timeSeries.context.catalog metric keyColumns.id)

include unread

theorem readSeries_shown {series : Series} (shows : series.Shows timeSeries rows) :
    readSeries timeSeries.context (timeSeries.metric? request.names) series =
      (rows.mapM (StoredRow.read timeSeries.context
        (labelOf request.names timeSeries.client.format))).map (List.filterMap id) := by
  obtain ⟨⟨metric, mem, named⟩, shown⟩ := shows
  have read : (series.rows.mapM fun values => Decoder.decodeRow timeSeries.context
      (labelOf request.names timeSeries.client.format metric)
      (.ofColumns series.columns values)) = rows.mapM (StoredRow.read timeSeries.context
        (labelOf request.names timeSeries.client.format)) := by
    refine Except.mapM_congr (shown.imp fun values row ⟨own, full, perm⟩ => ?_)
    rw [labelOf_eq_of_spelled mem row.requested (named.trans own.symm),
      Row.ofColumns_eq_ofFields row.distinct_columns full perm]
    exact Decoder.decodeRow_of_id (unread _ (labelOf_mem row.requested)) row.id row.fields
  rw [readSeries, ← named, metric?_of_spelled mem]
  dsimp only
  rw [read, Except.bind_ok_eq_map]

theorem readResult_shown {result : StatementResult} (shows : result.Shows timeSeries rows) :
    readResult timeSeries.context (timeSeries.metric? request.names) result =
      (rows.mapM (StoredRow.read timeSeries.context
        (labelOf request.names timeSeries.client.format))).map (List.filterMap id) := by
  obtain ⟨succeeded, parts, rfl, shown⟩ := shows
  rw [readResult, succeeded]
  exact Except.mapM_flatten (shown.imp fun _ _ => readSeries_shown unread)

theorem readResults_shown {results : List StatementResult}
    (shown : Spread (StatementResult.Shows timeSeries) results rows) :
    timeSeries.readResults request bucket results =
      ((rows.mapM (StoredRow.read timeSeries.context
        (labelOf request.names timeSeries.client.format))).map (List.filterMap id)).map
          (Result.collect request.scope bucket) := by
  obtain ⟨parts, rfl, shown⟩ := shown
  rw [Adapter.readResults, ← Except.mapM_flatten (shown.imp fun _ _ => readResult_shown unread)]
  rw [Except.bind_ok_eq_map]
  cases results.mapM (readResult timeSeries.context (timeSeries.metric? request.names)) <;> rfl

end TimeSeries

/-- Adapters over the same rows give the same answer, be it results or an error. The clients may
spell names as they like as long as they tell the same requested metrics apart; the physical names
have to be there for the bucket, and no column that is read may be stored under the name of the
record id. -/
theorem adapters_agree (same : SameRows document timeSeries request bucket rows)
    (alike : ∀ a ∈ request.names, ∀ b ∈ request.names,
      (∃ index, document.Stores bucket a index ∧ document.Stores bucket b index) ↔
        timeSeries.client.format a = timeSeries.client.format b)
    (unread : ∀ metric ∈ request.names,
      ¬ Decoder.Reads document.context.catalog metric keyColumns.id)
    (searches : List Document.Search) (commands : List String) :
    (document.read request bucket searches).1 = (timeSeries.read request bucket commands).1 := by
  obtain ⟨context, ⟨names, hits, derived, found, hitsShown⟩, results, answered, resultsShown⟩ :=
    same
  obtain ⟨tail, listed, named⟩ := PhysicalNames.ofRequest_eq_ok derived
  have labels : rows.mapM (StoredRow.read document.context
        (labelOf request.names fun name => document.client.format (name ++ tail))) =
      rows.mapM (StoredRow.read timeSeries.context
        (labelOf request.names timeSeries.client.format)) := by
    refine Except.mapM_congr (List.forall₂_same.2 fun row _ => ?_)
    rw [StoredRow.read, StoredRow.read, context, labelOf_congr _ row.requested]
    intro a mema b memb
    rw [← alike a mema b memb]
    simp only [Document.stores_iff named mema, Document.stores_iff named memb, exists_eq_left']
    exact eq_comm
  rw [Document.read_eq derived found, Document.readHits_shown listed named hitsShown, labels]
  have unreadThere (metric : String) (mem : metric ∈ request.names) :
      ¬ Decoder.Reads timeSeries.context.catalog metric keyColumns.id :=
    context ▸ unread metric mem
  rw [← TimeSeries.readResults_shown unreadThere resultsShown]
  rw [TimeSeries.Adapter.commandFor] at answered
  rw [TimeSeries.Adapter.read]
  dsimp only
  rw [answered, Except.ok_bind]

/-- Two documents and two series for a sum, with a record id and without one. -/
theorem adapters_agree_sum :
    let catalog : Catalog := ⟨⟨[.ofKind "m" .sum]⟩, (Metadata.empty none).add (.ofKind "m" .sum)⟩
    let document : Document.Adapter := ⟨⟨fun name => "sw_" ++ name, fun _ => .ok
      [⟨"sw_m_day-20240101", "7", [("value", .number (.integer 3))]⟩,
        ⟨"sw_m_day-20240101", "", []⟩]⟩, .ofCatalog catalog, 10⟩
    let timeSeries : TimeSeries.Adapter := ⟨⟨id, fun _ => .ok
      [⟨[⟨"m", ["value", "id"], [[.number (.integer 3), .string "7"]]⟩,
        ⟨"m", ["id"], [[.string ""]]⟩], none⟩]⟩, .ofCatalog catalog, "db"⟩
    let request : Request := ⟨["m"], .unrestricted⟩
    (document.read request 20240101 []).1 = (timeSeries.read request 20240101 []).1 := by
  intro catalog document timeSeries request
  let full : StoredRow request.names :=
    ⟨"m", "7", [("value", .number (.integer 3))], by decide, by decide, by decide⟩
  let nameless : StoredRow request.names := ⟨"m", "", [], by decide, by decide, by decide⟩
  have stored : document.Stores 20240101 "m" "sw_m_day-20240101" :=
    ⟨"m_day-20240101", ⟨.day, rfl, rfl⟩, rfl⟩
  have same : SameRows document timeSeries request 20240101 [full, nameless] := by
    refine ⟨rfl, ⟨⟨.day, 20240101, [("m", "m_day-20240101")]⟩, _, rfl, rfl, ?_⟩, _, rfl, ?_⟩
    · exact .cons ⟨stored, rfl, rfl⟩ (.cons ⟨stored, rfl, rfl⟩ .nil)
    · refine ⟨[[full, nameless]], rfl, .cons ⟨rfl, [[full], [nameless]], rfl, ?_⟩ .nil⟩
      have requested : ∃ metric ∈ request.names, timeSeries.client.format metric = "m" :=
        ⟨"m", .head _, rfl⟩
      exact .cons ⟨requested, .cons ⟨rfl, rfl, .swap ..⟩ .nil⟩
        (.cons ⟨requested, .cons ⟨rfl, rfl, .refl _⟩ .nil⟩ .nil)
  refine adapters_agree same ?_ ?_ [] []
  · intro a mema b memb
    cases List.mem_singleton.1 mema
    cases List.mem_singleton.1 memb
    exact ⟨fun _ => rfl, fun _ => ⟨_, stored, stored⟩⟩
  · rintro metric mem ⟨descriptor, resolved, column, read, physical⟩
    cases List.mem_singleton.1 mem
    cases resolved
    cases List.mem_singleton.1 read
    have plain : catalog.metadata.physicalName "m" "value" = .ok "value" := rfl
    have eq : "value" = "id" := Except.ok.inj (plain.symm.trans physical)
    contradiction

/-- The answers differ when the value column is stored under the name of the record id: a series
has such a column, the source of a document does not. They also differ when one client has a single
index for two requested metrics that the other client keeps apart, and when the partition of the
bucket starts before the first date: no search can be made then, not even for no rows. -/
theorem adapters_differ :
    (let catalog : Catalog := ⟨⟨[.ofKind "m" .sum]⟩,
        (Metadata.empty (some (Overrides.empty.rename "value" "id"))).add (.ofKind "m" .sum)⟩
      let document : Document.Adapter :=
        ⟨⟨id, fun _ => .ok [⟨"m_day-20240101", "7", []⟩]⟩, .ofCatalog catalog, 10⟩
      let timeSeries : TimeSeries.Adapter :=
        ⟨⟨id, fun _ => .ok [⟨[⟨"m", ["id"], [[.string "7"]]⟩], none⟩]⟩, .ofCatalog catalog, "db"⟩
      let request : Request := ⟨["m"], .unrestricted⟩
      let row : StoredRow request.names := ⟨"m", "7", [], by decide, by decide, by decide⟩
      SameRows document timeSeries request 20240101 [row] ∧
        (document.read request 20240101 []).1 = .error (.error (.missingColumn "id")) ∧
        (timeSeries.read request 20240101 []).1 =
          .ok [⟨"7", "", "20240101", [⟨"m", [⟨"value", 7⟩]⟩]⟩]) ∧
    (let catalog : Catalog := ⟨⟨[.ofKind "m" .sum, .ofKind "n" .sum]⟩,
        ((Metadata.empty none).add (.ofKind "m" .sum)).add (.ofKind "n" .sum)⟩
      let fields : List (String × Json) := [("value", .number (.integer 3))]
      let document : Document.Adapter :=
        ⟨⟨fun _ => "metrics", fun _ => .ok [⟨"metrics", "7", fields⟩]⟩, .ofCatalog catalog, 10⟩
      let timeSeries : TimeSeries.Adapter :=
        ⟨⟨id, fun _ => .ok
          [⟨[⟨"n", ["id", "value"], [[.string "7", .number (.integer 3)]]⟩], none⟩]⟩,
          .ofCatalog catalog, "db"⟩
      let request : Request := ⟨["n", "m"], .unrestricted⟩
      let row : StoredRow request.names := ⟨"n", "7", fields, by decide, by decide, by decide⟩
      SameRows document timeSeries request 20240101 [row] ∧
        (document.read request 20240101 []).1 =
          .ok [⟨"7", "", "20240101", [⟨"m", [⟨"value", 3⟩]⟩]⟩] ∧
        (timeSeries.read request 20240101 []).1 =
          .ok [⟨"7", "", "20240101", [⟨"n", [⟨"value", 3⟩]⟩]⟩]) ∧
    (let catalog : Catalog := ⟨⟨[.ofKind "m" .sum]⟩, (Metadata.empty none).add (.ofKind "m" .sum)⟩
      let context := (Context.ofCatalog catalog).withDayStep 4000000000
      let document : Document.Adapter := ⟨⟨id, fun _ => .ok []⟩, context, 10⟩
      let timeSeries : TimeSeries.Adapter := ⟨⟨id, fun _ => .ok [⟨[], none⟩]⟩, context, "db"⟩
      let request : Request := ⟨["m"], .unrestricted⟩
      TimeSeries.StatementResult.Shows timeSeries ⟨[], none⟩
          ([] : List (StoredRow request.names)) ∧
        (document.read request 19691231 []).1 = .error (.crash .dateOutOfRange) ∧
        (timeSeries.read request 19691231 []).1 = .ok []) := by
  refine ⟨?_, ?_, ?_⟩
  · intro catalog document timeSeries request row
    refine ⟨⟨rfl, ⟨⟨.day, 20240101, [("m", "m_day-20240101")]⟩, _, rfl, rfl, ?_⟩, _, rfl, ?_⟩,
      rfl, rfl⟩
    · exact .cons ⟨⟨_, ⟨.day, rfl, rfl⟩, rfl⟩, rfl, rfl⟩ .nil
    · exact ⟨[[row]], rfl, .cons ⟨rfl, [[row]], rfl,
        .cons ⟨⟨"m", .head _, rfl⟩, .cons ⟨rfl, rfl, .refl _⟩ .nil⟩ .nil⟩ .nil⟩
  · intro catalog fields document timeSeries request row
    refine ⟨⟨rfl, ⟨⟨.day, 20240101, [("n", "n_day-20240101"), ("m", "m_day-20240101")]⟩, _, rfl,
      rfl, ?_⟩, _, rfl, ?_⟩, rfl, rfl⟩
    · exact .cons ⟨⟨_, ⟨.day, rfl, rfl⟩, rfl⟩, rfl, rfl⟩ .nil
    · exact ⟨[[row]], rfl, .cons ⟨rfl, [[row]], rfl,
        .cons ⟨⟨"n", .head _, rfl⟩, .cons ⟨rfl, rfl, .refl _⟩ .nil⟩ .nil⟩ .nil⟩
  · intro catalog context document timeSeries request
    have step : document.context.dayStep = 4000000000 := Nat.max_eq_left (by decide)
    refine ⟨⟨rfl, [], rfl, .nil⟩, ?_, rfl⟩
    rw [Document.Adapter.read, step]
    rfl

end Rollup
