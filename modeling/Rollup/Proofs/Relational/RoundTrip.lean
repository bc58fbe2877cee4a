import Rollup.Proofs.Query.Grouping
import Rollup.Proofs.Relational.Calls
import Mathlib

/-!
What was written is read back. After any run of calls, a query gets one result for each record id
under which a requested metric has a matching record; the result holds, in the order of the request,
what these records show (`read_after_calls`).
-/
namespace Rollup.Relational

variable {adapter : Relational}

def Entry.isAsked (scope : Scope) (bucket : Int64) (metric : String) (entry : Entry) : Bool :=
  entry.metric = metric && entry.record.matches scope bucket

/-- The results that stored entries make for a request. -/
structure Answers (ranks : List Int32) (stored : List Entry) (request : Request) (bucket : Int64)
    (results : List Result) : Prop where
  unique : (results.map (·.id)).Nodup
  ids : ∀ id, id ∈ results.map (·.id) ↔ ∃ metric ∈ request.names, ∃ entry ∈ stored,
    entry.isAsked request.scope bucket metric = true ∧ entry.record.id = id
  keys : ∀ result ∈ results,
    result.entity = request.scope.id ∧ result.bucket = Numeral.render bucket.toInt
  sets : ∀ result ∈ results, result.sets = request.names.filterMap fun metric =>
    (stored.find? fun entry =>
      entry.isAsked request.scope bucket metric && entry.record.id = result.id).map fun entry =>
        ⟨metric, entry.record.shown ranks⟩

def foundFor (ranks : List Int32) (stored : List Entry) (scope : Scope) (bucket : Int64)
    (metric : String) : List (String × ValueSet) :=
  (stored.filter (Entry.isAsked scope bucket metric)).map fun entry =>
    (entry.record.id, ⟨metric, entry.record.shown ranks⟩)

theorem filter_eq_find? {α : Type} {test : α → Bool} {items : List α}
    (h : items.Pairwise fun a b => ¬ (test a = true ∧ test b = true)) :
    items.filter test = (items.find? test).toList := by
  induction items with
  | nil => rfl
  | cons item rest ih =>
    by_cases first : test item
    · have none : rest.filter test = [] :=
        List.filter_eq_nil_iff.2 fun other mem both =>
          List.rel_of_pairwise_cons h mem ⟨first, both⟩
      rw [List.filter_cons_of_pos first, List.find?_cons_of_pos first, none]
      rfl
    · rw [List.filter_cons_of_neg first, List.find?_cons_of_neg first]
      exact ih h.of_cons

/-- Under one id a query finds at most one entry of a metric. -/
theorem setsOf_foundFor {ranks : List Int32} {stored : List Entry}
    (unique : (stored.map Entry.place).Nodup) (scope : Scope) (bucket : Int64)
    (metric id : String) :
    Result.setsOf (foundFor ranks stored scope bucket metric) id =
      ((stored.find? fun entry =>
        entry.isAsked scope bucket metric && entry.record.id = id).map fun entry =>
          ⟨metric, entry.record.shown ranks⟩).toList := by
  have one : stored.Pairwise fun a b =>
      ¬ ((a.isAsked scope bucket metric && a.record.id = id) = true ∧
        (b.isAsked scope bucket metric && b.record.id = id) = true) := by
    refine (List.pairwise_map.1 unique).imp fun different both => different ?_
    simp only [Entry.isAsked, Bool.and_eq_true, decide_eq_true_eq] at both
    obtain ⟨⟨⟨metrics, _⟩, id⟩, ⟨otherMetrics, _⟩, otherId⟩ := both
    obtain ⟨buckets, entities⟩ := Record.Key.eq_of_id (id.trans otherId.symm)
    rw [Entry.place, Entry.place, metrics, otherMetrics, buckets, entities]
  have own : Result.setsOf (foundFor ranks stored scope bucket metric) id =
      (stored.filter fun entry => entry.isAsked scope bucket metric && entry.record.id = id).map
        fun entry => ⟨metric, entry.record.shown ranks⟩ := by
    rw [Result.setsOf, foundFor, List.filterMap_map, List.filterMap_filter,
      ← List.filterMap_eq_map', List.filterMap_filter]
    apply List.filterMap_congr
    intro entry _
    cases entry.isAsked scope bucket metric <;> simp
  rw [own, filter_eq_find? one]
  cases stored.find? _ <;> rfl

theorem answers_collect {ranks : List Int32} {stored : List Entry}
    (unique : (stored.map Entry.place).Nodup) (request : Request) (bucket : Int64) :
    Answers ranks stored request bucket (Result.collect request.scope bucket
      (request.names.flatMap (foundFor ranks stored request.scope bucket))) := by
  let found := request.names.flatMap (foundFor ranks stored request.scope bucket)
  have ids : ((Result.idsOf found).map (Result.of request.scope bucket found)).map (·.id) =
      Result.idsOf found := by
    rw [List.map_map]
    exact List.map_id' _
  rw [Result.collect_eq]
  refine ⟨?_, fun id => ?_, fun result mem => ?_, fun result mem => ?_⟩
  · rw [ids]
    exact Result.nodup_idsOf found
  · rw [ids, Result.idsOf, List.mem_eraseDups]
    simp only [found, foundFor, List.mem_map, List.mem_flatMap, List.mem_filter]
    constructor
    · rintro ⟨_, ⟨metric, asked, entry, ⟨mem, isAsked⟩, rfl⟩, rfl⟩
      exact ⟨metric, asked, entry, mem, isAsked, rfl⟩
    · rintro ⟨metric, asked, entry, mem, isAsked, rfl⟩
      exact ⟨_, ⟨metric, asked, entry, ⟨mem, isAsked⟩, rfl⟩, rfl⟩
  · obtain ⟨id, _, rfl⟩ := List.mem_map.1 mem
    exact ⟨rfl, rfl⟩
  · obtain ⟨id, _, rfl⟩ := List.mem_map.1 mem
    change Result.setsOf found id = _
    rw [Result.setsOf, List.filterMap_flatMap, List.filterMap_eq_flatMap_toList]
    congr 1
    funext metric
    exact setsOf_foundFor unique request.scope bucket metric id

theorem table_of_isAsked {scope : Scope} {metric name : String} {bucket : Int64}
    (named : adapter.tableName metric bucket = .ok name) {entry : Entry}
    (asked : entry.isAsked scope bucket metric = true) : entry.table adapter = .ok name := by
  simp only [Entry.isAsked, Record.matches, Bool.and_eq_true, decide_eq_true_eq] at asked
  rw [Entry.table, asked.1, asked.2.1, named]

/-- The records that are written to the tables of a name. -/
def recordsAt (adapter : Relational) (stored : List Entry) (name : String) : List Record :=
  (stored.filter (Entry.goesTo adapter name)).map Entry.record

section Named

variable {metric name : String} {bucket : Int64}
  (named : adapter.tableName metric bucket = .ok name) {stored : List Entry}

include named

theorem metric_of_goesTo {entry : Entry} (goes : entry.goesTo adapter name = true) :
    entry.metric = metric :=
  metric_eq_of_tableName (Entry.goesTo_iff.1 goes) named

theorem storable_of_mem_recordsAt (storable : ∀ entry ∈ stored, entry.Storable adapter) :
    ∀ record ∈ recordsAt adapter stored name, Entry.Storable adapter ⟨metric, record⟩ := by
  intro record mem
  obtain ⟨entry, kept, rfl⟩ := List.mem_map.1 mem
  obtain ⟨before, goes⟩ := List.mem_filter.1 kept
  rw [← metric_of_goesTo named goes]
  exact storable entry before

theorem filter_recordsAt (scope : Scope) :
    (recordsAt adapter stored name).filter (·.matches scope bucket) =
      (stored.filter (Entry.isAsked scope bucket metric)).map Entry.record := by
  rw [recordsAt, List.filter_map, List.filter_filter]
  congr 1
  apply List.filter_congr
  intro entry _
  rw [Bool.eq_iff_iff, Bool.and_eq_true]
  constructor
  · rintro ⟨asked, goes⟩
    rw [Entry.isAsked, Bool.and_eq_true, decide_eq_true_eq]
    exact ⟨metric_of_goesTo named goes, asked⟩
  · intro asked
    exact ⟨(Bool.and_eq_true_iff.1 asked).2, Entry.goesTo_iff.2 (table_of_isAsked named asked)⟩

theorem rows_eq_recordsAt {table : Table} (own : table.name = name)
    (rows : table.rows =
      (stored.filter (Entry.goesTo adapter table.name)).map (Entry.row adapter table)) :
    table.rows = (recordsAt adapter stored name).map fun record =>
      table.newRow (adapter.given metric record) := by
  subst own
  rw [rows, recordsAt, List.map_map]
  apply List.map_congr_left
  intro entry kept
  rw [Entry.row, metric_of_goesTo named (List.mem_filter.1 kept).2]
  rfl

end Named

section Stores

variable (regular : adapter.context.catalog.Regular) {stored : List Entry} {database : Database}
  (stores : adapter.Stores stored database) (storable : ∀ entry ∈ stored, entry.Storable adapter)

include regular stores storable

/-- A metric, registered or not, is read from the table of its name as it is stored. -/
theorem readTable_storable {metric name : String} {bucket : Int64}
    (named : adapter.tableName metric bucket = .ok name) (scope : Scope) :
    readTable adapter.context database scope bucket metric name =
      .ok (foundFor adapter.context.ranks stored scope bucket metric) := by
  by_cases listed : database.lists name = true
  · obtain ⟨table, mem, own⟩ := List.any_eq_true.1 listed
    obtain own : table.name = name := of_decide_eq_true own
    have found : database.find? name = some table :=
      stores.find?_eq mem (own ▸ sameName_refl _)
    obtain ⟨⟨metric', kind, bucket', has, named', made⟩, -, rows⟩ := stores.tables table mem
    obtain rfl := metric_eq_of_tableName named (own ▸ named')
    have fits := storable_of_mem_recordsAt named storable
    have ofKind := fun record mem => (fits record mem).has.unique has
    have counted := fun record mem => (fits record mem).counted
    rw [readTable_eq regular has made found listed (rows_eq_recordsAt named own rows) ofKind
      counted, filter_recordsAt named, List.map_map]
    rfl
  · -- no table is listed under the exact name, so nothing was ever written for the metric there
    have nothing : foundFor adapter.context.ranks stored scope bucket metric = [] := by
      rw [foundFor, List.map_eq_nil_iff, List.filter_eq_nil_iff]
      intro entry mem asked
      obtain ⟨table, before, own⟩ := stores.complete entry mem
      rw [table_of_isAsked named asked] at own
      exact listed (List.any_eq_true.2 ⟨table, before, decide_eq_true (Except.ok.inj own).symm⟩)
    rw [nothing, readTable]
    split
    · rfl
    · rw [if_neg listed]

theorem readTables_storable {request : Request} {bucket : Int64} {names : List String}
    (named : request.names.mapM (adapter.tableName · bucket) = .ok names) :
    readTables adapter.context database request bucket names =
      .ok (Result.collect request.scope bucket
        (request.names.flatMap
          (foundFor adapter.context.ranks stored request.scope bucket))) := by
  have each {metrics names : List String}
      (named : metrics.mapM (adapter.tableName · bucket) = .ok names) :
      (metrics.zip names).mapM (fun place =>
        readTable adapter.context database request.scope bucket place.1 place.2) =
        .ok (metrics.map (foundFor adapter.context.ranks stored request.scope bucket)) := by
    induction metrics generalizing names with
    | nil => rfl
    | cons metric rest ih =>
      rw [List.mapM_cons] at named
      obtain ⟨name, first, named⟩ := Except.bind_eq_ok_iff.1 named
      obtain ⟨others, namedRest, eq⟩ := Except.bind_eq_ok_iff.1 named
      cases eq
      rw [List.zip_cons_cons, List.mapM_cons, ih namedRest]
      simp only [readTable_storable regular stores storable first]
      rfl
  change (do
    let found ← (request.names.zip names).mapM fun (place : String × String) =>
      readTable adapter.context database request.scope bucket place.1 place.2
    Except.ok (Result.collect request.scope bucket found.flatten)) = _
  rw [each named, Except.ok_bind, List.flatMap_def]

end Stores

theorem readTables_stored (regular : adapter.context.catalog.Regular) {stored : List Entry}
    {database : Database} (stores : adapter.Stores stored database)
    (fitting : ∀ entry ∈ stored, entry.Fits adapter) {request : Request} {bucket : Int64}
    {names : List String} (named : request.names.mapM (adapter.tableName · bucket) = .ok names) :
    readTables adapter.context database request bucket names =
      .ok (Result.collect request.scope bucket
        (request.names.flatMap
          (foundFor adapter.context.ranks stored request.scope bucket))) :=
  readTables_storable regular stores (fun entry mem => (fitting entry mem).storable) named

/-- Where one metric has a table, all names of a request have. -/
theorem exists_names {metric name : String} {bucket : Int64}
    (named : adapter.tableName metric bucket = .ok name) (metrics : List String) :
    ∃ names, metrics.mapM (adapter.tableName · bucket) = .ok names := by
  rw [tableName_eq, Except.map_eq_ok_iff] at named
  obtain ⟨suffix, eq, -⟩ := named
  have each (other : String) : adapter.tableName other bucket =
      .ok (withNamespace adapter.space (other ++ suffix)) := by
    rw [tableName_eq, eq]
    rfl
  exact ⟨_, Except.mapM_eq_ok fun other _ => each other⟩

/-- After a run of calls that succeeds, every request is answered from exactly the records that
were written. A bucket that no table is named for is refused; nothing is stored at it. -/
theorem read_after_calls (regular : adapter.context.catalog.Regular) {size : Nat}
    {calls : List Call} {store : Store}
    (ran : calls.foldlM (Call.run adapter) (Store.ofSize size) = .ok store)
    (fits : ∀ call ∈ calls, call.Fits adapter)
    (unique : ((calls.flatMap Call.entries).map Entry.place).Nodup) (request : Request)
    (bucket : Int64) :
    match request.names.mapM (adapter.tableName · bucket) with
    | .error failure => (adapter.read request bucket store).1 = .error failure ∧
        ∀ entry ∈ calls.flatMap Call.entries, entry.record.key.bucket ≠ bucket
    | .ok _ => ∃ results, (adapter.read request bucket store).1 = .ok results ∧
        Answers adapter.context.ranks (calls.flatMap Call.entries) request bucket results := by
  obtain ⟨stores, free⟩ := stores_of_calls regular (Stores.empty : adapter.Stores [] _)
    (Pool.free_ofSize size) ran nofun fits unique
  rw [List.nil_append] at stores
  have fitting : ∀ entry ∈ calls.flatMap Call.entries, entry.Fits adapter := by
    intro entry mem
    obtain ⟨call, listed, mem⟩ := List.mem_flatMap.1 mem
    exact Call.fits_entries (fits call listed) entry mem
  split
  · next failure refused =>
    refine ⟨by rw [read, refused], fun entry mem same => ?_⟩
    obtain ⟨table, _, named⟩ := stores.complete entry mem
    rw [Entry.table, same] at named
    obtain ⟨names, eq⟩ := exists_names named request.names
    rw [refused] at eq
    contradiction
  · next names named =>
    obtain ⟨pool, _, eq⟩ := Store.withConnection_eq free fun database =>
      (Outcome.ofExcept (readTables adapter.context database request bucket names), database)
    refine ⟨_, ?_, answers_collect unique request bucket⟩
    rw [read, named]
    simp only [eq]
    rw [readTables_stored regular stores fitting named]
    rfl

/-- A metric with a column renamed by its model and another by the deployment, asked for twice and
once in other letters. -/
theorem read_after_calls_renamed :
    let model := (Model.ofKind "Resp" .average).rename "value" "shown"
    let adapter : Relational :=
      ⟨.ofCatalog ⟨⟨[.ofKind "Resp" .average]⟩,
        ⟨[("Resp", model)], some ⟨[("count", "n")], []⟩⟩⟩, "ns"⟩
    let record : Record :=
      ⟨⟨"inst-1", some "svc-A", 202401011200⟩, .average ⟨72, 6, 14, 10, 12⟩⟩
    let calls := [Call.createTable model 202401011200, .insert "Resp" [record]]
    let request : Request := ⟨["Resp", "RESP", "Resp"], Scope.ofService "svc-A"⟩
    ∃ store results, calls.foldlM (Call.run adapter) (Store.ofSize 1) = .ok store ∧
      (adapter.read request 202401011200 store).1 = .ok results ∧
      Answers adapter.context.ranks [⟨"Resp", record⟩] request 202401011200 results := by
  intro model adapter record calls request
  have described : model.Describes .average := (Model.describes_ofKind ..).rename _ _
  have regular : adapter.context.catalog.Regular :=
    Catalog.regular_single (by decide : Kind.average ≠ .singleValue) described
      (some ⟨[("count", "n")], []⟩)
  have fits : ∀ call ∈ calls, call.Fits adapter := by
    intro call mem
    rcases List.mem_cons.1 mem with rfl | mem
    · exact (rfl : adapter.context.catalog.metadata.resolve model.name = .ok model)
    · cases List.mem_singleton.1 mem
      intro written mem
      cases List.mem_singleton.1 mem
      exact ⟨⟨_, rfl, rfl⟩, by simp [record]⟩
  have succeeds : (calls.foldlM (Call.run adapter) (Store.ofSize 1)).isOk = true := by
    decide +kernel
  obtain ⟨store, ran⟩ := Except.isOk_iff.1 succeeds
  have answers := @read_after_calls adapter regular 1 calls store ran fits (by decide) request
    202401011200
  have named : request.names.mapM (adapter.tableName · 202401011200) =
      .ok ["ns_Resp_minute-20240101", "ns_RESP_minute-20240101", "ns_Resp_minute-20240101"] := by
    cbv
  rw [named] at answers
  obtain ⟨results, read, answers⟩ := answers
  exact ⟨store, results, ran, read, answers⟩

end Rollup.Relational
