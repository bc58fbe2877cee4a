import Rollup.Proofs.Relational.Pool
import Rollup.Proofs.Relational.StoredRows
import Rollup.Proofs.Relational.Upserts

/-!
Runs of calls that create tables and write records. What the creation and the change of a table
come to is said once (`Database.create_cases`, `Database.exists_of_update`). `Stores` says what is
in the database after the calls: a table holds exactly the rows of the records stored under its
name, in the order in which their places were first written. A new table and a written record keep
it (`Stores.create`, `Stores.write`), and so does a run of calls (`stores_put_of_calls`). A record
that is written over another one takes its place, and its owner if it gives none (`Entry.put`).
-/
namespace Rollup

theorem Database.distinct_of_checkTable {table : Table} (h : checkTable table = .ok ()) :
    table.Distinct := by
  rw [checkTable] at h
  split at h
  · contradiction
  · split at h
    · contradiction
    · exact List.pairwise_map.1 (Table.distinct_of_checkNames h)

/-- A table that is created is new under its name, or there is one that need not be new. -/
theorem Database.create_cases {database after : Database} {table : Table} {new : Bool}
    (h : database.create table new = .ok after) :
    checkTable table = .ok () ∧ ((new = false ∧ after = database) ∨
      (∀ other ∈ database.tables, sameName other.name table.name = false) ∧
        after = ⟨database.tables ++ [table]⟩) := by
  obtain ⟨⟨⟩, checked, created⟩ := Except.bind_eq_ok_iff.1 h
  refine ⟨checked, ?_⟩
  split at created
  · split at created
    · contradiction
    · next old =>
      cases created
      exact .inl ⟨Bool.eq_false_iff.2 old, rfl⟩
  · next absent =>
    cases created
    exact .inr ⟨by simpa [find?] using absent, rfl⟩

/-- A change is made to the table that is found, for every table that the name stands for. -/
theorem Database.exists_of_update {database after : Database} {name : String}
    {change : Table → Except Error.Refusal Table} (h : database.update name change = .ok after) :
    ∃ found ∈ database.tables, sameName found.name name = true ∧
      ∃ changed, change found = .ok changed ∧
        after = ⟨database.tables.map fun table =>
          if sameName table.name name then changed else table⟩ := by
  rw [update] at h
  split at h
  · contradiction
  next found eq =>
  obtain ⟨changed, made, eq'⟩ := Except.bind_eq_ok_iff.1 h
  cases eq'
  exact ⟨found, List.mem_of_find?_eq_some eq, by simpa using List.find?_some eq, changed, made,
    rfl⟩

/-- Under different names a name stands for one table only. -/
theorem Database.map_ite_sameName {tables : List Table}
    (distinct : tables.Pairwise fun a b => sameName a.name b.name = false) {found : Table}
    (mem : found ∈ tables) {name : String} (own : sameName found.name name = true)
    (changed : Table) :
    tables.map (fun table => if sameName table.name name then changed else table) =
      tables.map fun table => if table = found then changed else table := by
  apply List.map_congr_left
  intro table listed
  by_cases same : table = found
  · rw [same, if_pos own, if_pos rfl]
  · rw [if_neg same, if_neg fun reached => same (eq_of_distinct distinct listed mem
      ((sameName_congr own _).trans reached))]

theorem Record.Key.eq_of_id {key other : Record.Key} (h : key.id = other.id) :
    key.bucket = other.bucket ∧ key.entity = other.entity := by
  have absent (n : Int) : '_' ∉ Numeral.write n := fun mem => by
    rcases Numeral.isNumeralChar_of_mem_write mem with digit | dash
    · exact absurd digit (by decide)
    · exact absurd dash (by decide)
  have chars : Numeral.write key.bucket.toInt ++ '_' :: key.entity.toList =
      Numeral.write other.bucket.toInt ++ '_' :: other.entity.toList := by
    simpa [Key.id, Numeral.render] using congrArg String.toList h
  have cut := congrArg (Text.cut '_') chars
  rw [Text.cut_append (absent _), Text.cut_append (absent _), Option.some.injEq,
    Prod.mk.injEq] at cut
  exact ⟨Int64.toInt_inj.1 (Numeral.write_injective cut.1), String.toList_inj.1 cut.2⟩

namespace Relational

variable {adapter : Relational}

inductive Call
  | createTable (model : Model) (bucket : Int64)
  | insert (metric : String) (records : List Record)

/-- The store after a call that succeeds. -/
def Call.run (adapter : Relational) (store : Store) : Call → Outcome Store
  | createTable model bucket =>
    match adapter.createTable model bucket store with
    | (.ok _, store) => .ok store
    | (.error failure, _) => .error failure
  | insert metric records =>
    match adapter.insert metric records store with
    | (.ok _, store) => .ok store
    | (.error failure, _) => .error failure

structure Entry where
  metric : String
  record : Record

/-- What tells entries apart: the metric, the entity and the bucket. -/
def Entry.place (entry : Entry) : String × String × Int64 :=
  (entry.metric, entry.record.key.entity, entry.record.key.bucket)

def Call.entries : Call → List Entry
  | createTable _ _ => []
  | insert metric records => records.map (Entry.mk metric)

/-- The record is of the kind of its metric, and its percentiles are calculated for the ranks of the
adapter. -/
structure Entry.Fits (adapter : Relational) (entry : Entry) : Prop where
  has : adapter.context.catalog.Has entry.metric entry.record.kind
  calculated : ∀ p, entry.record.measure = .percentile p →
    p.ranks = adapter.context.ranks ∧ p.calculate = .ok p

/-- The call creates the table of a model of the catalog, or writes records that fit. -/
def Call.Fits (adapter : Relational) : Call → Prop
  | createTable model _ => adapter.context.catalog.metadata.resolve model.name = .ok model
  | insert metric records => ∀ record ∈ records, Entry.Fits adapter ⟨metric, record⟩

theorem Call.forall_entries_insert {P : Entry → Prop} {metric : String} {records : List Record}
    (h : ∀ record ∈ records, P ⟨metric, record⟩) :
    ∀ entry ∈ (insert metric records).entries, P entry := by
  intro entry mem
  obtain ⟨record, listed, rfl⟩ := List.mem_map.1 mem
  exact h record listed

theorem Call.fits_entries {call : Call} (fits : call.Fits adapter) :
    ∀ entry ∈ call.entries, entry.Fits adapter := by
  cases call with
  | createTable model bucket => exact nofun
  | insert metric records => exact forall_entries_insert fits

/-- The record is of the kind of its metric, and its percentiles are ranked as the adapter ranks
them. They may be out of date, but none of them is negative. -/
structure Entry.Storable (adapter : Relational) (entry : Entry) : Prop where
  has : adapter.context.catalog.Has entry.metric entry.record.kind
  ranked : ∀ p, entry.record.measure = .percentile p → p.ranks = adapter.context.ranks
  counted : ∀ p, entry.record.measure = .percentile p → p.values.Counted

/-- The call creates the table of a model of the catalog, or writes records that can be stored as
they are. -/
def Call.Storable (adapter : Relational) : Call → Prop
  | createTable model _ => adapter.context.catalog.metadata.resolve model.name = .ok model
  | insert metric records => ∀ record ∈ records, Entry.Storable adapter ⟨metric, record⟩

theorem Call.storable_entries {call : Call} (storable : call.Storable adapter) :
    ∀ entry ∈ call.entries, entry.Storable adapter := by
  cases call with
  | createTable model bucket => exact nofun
  | insert metric records => exact forall_entries_insert storable

theorem Entry.Fits.storable {entry : Entry} (fits : entry.Fits adapter) : entry.Storable adapter :=
  ⟨fits.has, fun p percentile => (fits.calculated p percentile).1,
    fun p percentile => Percentile.counted_of_calculate (fits.calculated p percentile).2⟩

theorem Call.Fits.storable {call : Call} (fits : call.Fits adapter) : call.Storable adapter := by
  cases call with
  | createTable model bucket => exact fits
  | insert metric records => exact fun record mem => (fits record mem).storable

namespace Entry

def table (adapter : Relational) (entry : Entry) : Outcome String :=
  adapter.tableName entry.metric entry.record.key.bucket

def goesTo (adapter : Relational) (name : String) (entry : Entry) : Bool :=
  match entry.table adapter with
  | .ok table => table = name
  | .error _ => false

theorem goesTo_iff {entry : Entry} {name : String} :
    entry.goesTo adapter name = true ↔ entry.table adapter = .ok name := by
  rw [goesTo]
  cases entry.table adapter <;> simp

def row (adapter : Relational) (table : Table) (entry : Entry) : List Cell :=
  table.newRow (adapter.given entry.metric entry.record)

/-- What stands for an entry after another one is written: if they are of one place, the other one
written over it. -/
def overwrite (entry old : Entry) : Entry :=
  if old.place = entry.place then ⟨entry.metric, old.record.overwrite entry.record⟩ else old

/-- The stored entries after an entry is written. -/
def put (stored : List Entry) (entry : Entry) : List Entry :=
  if entry.place ∈ stored.map place then stored.map (overwrite entry) else stored ++ [entry]

def lasts : List Entry → List Entry
  | [] => []
  | entry :: later =>
    if entry.place ∈ later.map place then lasts later else entry :: lasts later

@[simp] theorem place_overwrite (entry old : Entry) : (overwrite entry old).place = old.place := by
  rw [overwrite]
  split
  · next same => exact same.symm
  · rfl

theorem place_eq_iff {entry other : Entry} :
    entry.place = other.place ↔
      entry.metric = other.metric ∧ entry.record.id = other.record.id := by
  simp only [place, Prod.mk.injEq]
  apply and_congr_right
  intro _
  constructor
  · rintro ⟨entities, buckets⟩
    rw [Record.id, Record.id, Record.Key.id, Record.Key.id, entities, buckets]
  · intro ids
    exact (Record.Key.eq_of_id ids).symm

theorem table_of_place {entry other : Entry} (same : entry.place = other.place) :
    entry.table adapter = other.table adapter := by
  simp only [place, Prod.mk.injEq] at same
  rw [table, table, same.1, same.2.2]

theorem table_overwrite (entry old : Entry) :
    (overwrite entry old).table adapter = old.table adapter :=
  table_of_place (place_overwrite entry old)

theorem goesTo_overwrite (entry old : Entry) (name : String) :
    (overwrite entry old).goesTo adapter name = old.goesTo adapter name := by
  rw [goesTo, goesTo, table_overwrite]

/-- A new place is put at the end. -/
theorem nodup_put {stored : List Entry} (unique : (stored.map place).Nodup) (entry : Entry) :
    ((put stored entry).map place).Nodup := by
  rw [put]
  split
  · simpa [Function.comp_def] using unique
  · next free =>
    rw [List.map_append, List.nodup_append]
    refine ⟨unique, List.pairwise_singleton .., ?_⟩
    rintro _ mem _ last rfl
    rw [List.map_singleton, List.mem_singleton] at last
    exact free (last ▸ mem)

theorem foldl_put_of_nodup {entries stored : List Entry}
    (unique : ((stored ++ entries).map place).Nodup) :
    entries.foldl put stored = stored ++ entries := by
  induction entries generalizing stored with
  | nil => simp
  | cons entry rest ih =>
    have free : entry.place ∉ stored.map place := by
      rw [List.map_append, List.nodup_append] at unique
      exact fun mem => unique.2.2 _ mem _ (by simp) rfl
    rw [List.append_cons] at unique ⊢
    rw [List.foldl_cons, put, if_neg free, ih unique]

theorem Storable.aligned {entry : Entry} (storable : entry.Storable adapter) :
    adapter.align entry.record = .ok entry.record := by
  have same : entry.record.setRanks adapter.context.ranks = (entry.record, false) := by
    rw [Record.setRanks]
    split
    · next p percentile => rw [if_pos (storable.ranked p percentile)]
    · rfl
  rw [align, same]

theorem storable_put {stored : List Entry} (fitting : ∀ old ∈ stored, old.Storable adapter)
    {entry : Entry} (storable : entry.Storable adapter) :
    ∀ other ∈ put stored entry, other.Storable adapter := by
  rw [put]
  split
  · intro other mem
    obtain ⟨old, listed, rfl⟩ := List.mem_map.1 mem
    rw [overwrite]
    split
    · exact ⟨storable.has, storable.ranked, storable.counted⟩
    · exact fitting old listed
  · intro other mem
    rcases List.mem_append.1 mem with mem | mem
    · exact fitting other mem
    · exact List.mem_singleton.1 mem ▸ storable

theorem storable_foldl_put {entries stored : List Entry}
    (fitting : ∀ old ∈ stored, old.Storable adapter)
    (storable : ∀ entry ∈ entries, entry.Storable adapter) :
    ∀ other ∈ entries.foldl put stored, other.Storable adapter := by
  induction entries generalizing stored with
  | nil => exact fitting
  | cons entry rest ih =>
    rw [List.forall_mem_cons] at storable
    exact ih (storable_put fitting storable.1) storable.2

end Entry

theorem refuse_eq_ok_iff {α : Type} {result : Except Error.Refusal α} {value : α} :
    refuse result = .ok value ↔ result = .ok value := by
  cases result <;> simp [refuse]

theorem change_of_commit {α : Type} {value result : α} {change : Database → Outcome Database}
    {store after : Store} (free : store.pool.Free)
    (h : store.withConnection (commit value change) = (.ok result, after)) :
    change store.database = .ok after.database ∧ after.pool.Free := by
  obtain ⟨pool, kept, eq⟩ := Store.withConnection_eq free (commit value change)
  rw [eq, commit] at h
  split at h
  · next database changed =>
    obtain ⟨-, rfl⟩ := Prod.mk.inj h
    exact ⟨changed, kept⟩
  · cases h

theorem createTable_eq_ok {model : Model} {bucket : Int64} {name : String} {store after : Store}
    (free : store.pool.Free) (h : adapter.createTable model bucket store = (.ok name, after)) :
    ∃ name table, adapter.tableName model.name bucket = .ok name ∧
      adapter.tableOf model name = .ok table ∧
      store.database.create table false = .ok after.database ∧ after.pool.Free := by
  simp only [createTable] at h
  split at h
  · cases h
  · next table prepared =>
    obtain ⟨name, named, made⟩ := Except.bind_eq_ok_iff.1 prepared
    obtain ⟨changed, kept⟩ := change_of_commit free h
    obtain ⟨_, _, created⟩ := Except.bind_eq_ok_iff.1 changed
    refine ⟨name, table, named, ?_, refuse_eq_ok_iff.1 created, kept⟩
    exact Outcome.ofExcept_eq_ok_iff.1 made

theorem insert_eq_ok {metric : String} {records : List Record} {count : Nat} {store after : Store}
    (free : store.pool.Free) (h : adapter.insert metric records store = (.ok count, after)) :
    ∃ writes, records.mapM (adapter.write metric) = .ok writes ∧
      writes.foldlM carryOut store.database = .ok after.database ∧ after.pool.Free := by
  rw [insert] at h
  split at h
  · cases h
  · next writes prepared => exact ⟨writes, prepared, change_of_commit free h⟩

/-- Of two metrics of the catalog, tables under one name belong to the same. -/
theorem metric_eq_of_sameName (regular : adapter.context.catalog.Regular)
    {metric other name otherName : String} {kind otherKind : Kind} {bucket otherBucket : Int64}
    (has : adapter.context.catalog.Has metric kind)
    (otherHas : adapter.context.catalog.Has other otherKind)
    (named : adapter.tableName metric bucket = .ok name)
    (otherNamed : adapter.tableName other otherBucket = .ok otherName)
    (same : sameName name otherName = true) : metric = other ∧ name = otherName := by
  obtain ⟨metrics, suffixes⟩ := sameName_of_tableName named otherNamed same
  obtain rfl := regular.distinct metric kind other otherKind has otherHas metrics
  rw [tableName_eq, suffixes, ← tableName_eq, otherNamed] at named
  exact ⟨rfl, (Except.ok.inj named).symm⟩

/-- A table of a metric that holds exactly the rows of the entries stored under its name. -/
structure HoldsEntries (adapter : Relational) (stored : List Entry) (table : Table) : Prop where
  made : ∃ metric kind bucket, adapter.context.catalog.Has metric kind ∧
    adapter.tableName metric bucket = .ok table.name ∧ adapter.MadeFor metric kind table
  keyed : table.keyed = true
  rows : table.rows =
    (stored.filter (Entry.goesTo adapter table.name)).map (Entry.row adapter table)

/-- What a database holds: tables of metrics, under different names, with the stored entries. -/
structure Stores (adapter : Relational) (stored : List Entry) (database : Database) : Prop where
  tables : ∀ table ∈ database.tables, adapter.HoldsEntries stored table
  distinct : database.tables.Pairwise fun a b => sameName a.name b.name = false
  complete : ∀ entry ∈ stored, ∃ table ∈ database.tables, entry.table adapter = .ok table.name

namespace Stores

variable {stored : List Entry} {database : Database}

theorem find?_eq (stores : adapter.Stores stored database) {table : Table}
    (mem : table ∈ database.tables) {name : String} (same : sameName table.name name = true) :
    database.find? name = some table :=
  find?_of_distinct stores.distinct mem same

theorem empty : adapter.Stores [] .empty :=
  ⟨nofun, .nil, nofun⟩

/-- A new table holds nothing, since what is stored has a table already. -/
theorem create (stores : adapter.Stores stored database) {metric : String} {kind : Kind}
    {bucket : Int64} {name : String} (has : adapter.context.catalog.Has metric kind)
    (named : adapter.tableName metric bucket = .ok name) {after : Database}
    (created : database.create ⟨name, adapter.layout metric kind, true, []⟩ false = .ok after) :
    adapter.Stores stored after := by
  obtain ⟨checked, ⟨-, rfl⟩ | ⟨others, rfl⟩⟩ := Database.create_cases created
  · exact stores
  · have distinct := Database.distinct_of_checkTable checked
    have nothing : stored.filter (Entry.goesTo adapter name) = [] := by
      rw [List.filter_eq_nil_iff]
      intro entry mem goes
      -- a stored entry has its table already, and that would have been found
      obtain ⟨table, listed, own⟩ := stores.complete entry mem
      have same : name = table.name := Except.ok.inj ((Entry.goesTo_iff.1 goes).symm.trans own)
      have other := others table listed
      rw [← same, sameName_refl] at other
      contradiction
    refine ⟨fun table mem => ?_, ?_, fun entry mem => ?_⟩
    · rcases List.mem_append.1 mem with mem | mem
      · exact stores.tables table mem
      · cases List.mem_singleton.1 mem
        exact ⟨⟨metric, kind, bucket, has, named, rfl, distinct⟩, rfl, by rw [nothing]; rfl⟩
    · rw [List.pairwise_append]
      refine ⟨stores.distinct, List.pairwise_singleton .., fun a ha b hb => ?_⟩
      rw [List.mem_singleton.1 hb]
      exact others a ha
    · obtain ⟨table, listed, own⟩ := stores.complete entry mem
      exact ⟨table, List.mem_append_left _ listed, own⟩

theorem filter_put {name : String} {entry : Entry} (elsewhere : entry.goesTo adapter name = false) :
    (Entry.put stored entry).filter (Entry.goesTo adapter name) =
      stored.filter (Entry.goesTo adapter name) := by
  rw [Entry.put]
  split
  · have same : Entry.goesTo adapter name ∘ Entry.overwrite entry = Entry.goesTo adapter name := by
      funext old
      exact Entry.goesTo_overwrite entry old name
    rw [List.filter_map, same]
    refine (List.map_congr_left fun old mem => ?_).trans (List.map_id _)
    have goes := (List.mem_filter.1 mem).2
    rw [Entry.overwrite, if_neg, id]
    intro place
    rw [Entry.goesTo, Entry.table_of_place place, ← Entry.goesTo, elsewhere] at goes
    contradiction
  · simp [elsewhere]

theorem replace (stores : adapter.Stores stored database) {found changed : Table}
    (mem : found ∈ database.tables) {entry : Entry} (named : entry.table adapter = .ok found.name)
    (holds : adapter.HoldsEntries (Entry.put stored entry) changed)
    (name : changed.name = found.name) :
    adapter.Stores (Entry.put stored entry)
      ⟨database.tables.map fun table =>
        if sameName table.name found.name then changed else table⟩ := by
  have names (table : Table) : (if table = found then changed else table).name = table.name := by
    split
    · next own => rw [own, name]
    · rfl
  -- of the other tables neither the name nor the entries that go there change
  rw [Database.map_ite_sameName stores.distinct mem (sameName_refl _)]
  refine ⟨fun table listed => ?_, ?_, fun other listed => ?_⟩
  · obtain ⟨table, before, rfl⟩ := List.mem_map.1 listed
    by_cases own : table = found
    · rw [if_pos own]
      exact holds
    · have kept := stores.tables table before
      have elsewhere : entry.goesTo adapter table.name = false := by
        apply Bool.eq_false_iff.2
        intro goes
        have equal : table.name = found.name :=
          Except.ok.inj ((Entry.goesTo_iff.1 goes).symm.trans named)
        exact own (eq_of_distinct stores.distinct before mem (equal ▸ sameName_refl _))
      rw [if_neg own]
      exact ⟨kept.made, kept.keyed, by rw [filter_put elsewhere, kept.rows]⟩
  · refine List.pairwise_map.2 (stores.distinct.imp fun different => ?_)
    rw [names, names]
    exact different
  · rw [Entry.put] at listed
    split at listed
    · obtain ⟨old, before, rfl⟩ := List.mem_map.1 listed
      obtain ⟨table, held, own⟩ := stores.complete old before
      exact ⟨_, List.mem_map_of_mem held, by rw [Entry.table_overwrite, own, names]⟩
    · rcases List.mem_append.1 listed with listed | listed
      · obtain ⟨table, before, own⟩ := stores.complete other listed
        exact ⟨_, List.mem_map_of_mem before, by rw [own, names]⟩
      · cases List.mem_singleton.1 listed
        exact ⟨_, List.mem_map_of_mem mem, by rw [named, names]⟩

variable (regular : adapter.context.catalog.Regular)

include regular

section Table

variable {table : Table} {entry : Entry} (storable : entry.Storable adapter)
  (named : entry.table adapter = .ok table.name)
  (made : adapter.MadeFor entry.metric entry.record.kind table)

include storable named

/-- What goes to the table of an entry is of its metric and of its kind. -/
theorem same_metric {old : Entry} (fitting : old.Storable adapter)
    (goes : old.goesTo adapter table.name = true) :
    old.metric = entry.metric ∧ old.record.kind = entry.record.kind := by
  obtain ⟨metrics, -⟩ := metric_eq_of_sameName regular fitting.has storable.has
    (Entry.goesTo_iff.1 goes) named (sameName_refl _)
  exact ⟨metrics, (metrics ▸ fitting.has).unique storable.has⟩

include made

theorem head?_row_eq_iff {old : Entry} (fitting : old.Storable adapter)
    (goes : old.goesTo adapter table.name = true) :
    (Entry.row adapter table old).head? = (Entry.row adapter table entry).head? ↔
      old.place = entry.place := by
  obtain ⟨metrics, kinds⟩ := same_metric regular storable named fitting goes
  have oldMade : adapter.MadeFor entry.metric old.record.kind table := kinds ▸ made
  rw [Entry.row, Entry.row, metrics, oldMade.head?_newRow, made.head?_newRow, Option.some.injEq,
    Cell.text.injEq, Entry.place_eq_iff, metrics, eq_self, true_and]

theorem rows_upsertRow (fitting : ∀ old ∈ stored, old.Storable adapter)
    (rows : table.rows =
      (stored.filter (Entry.goesTo adapter table.name)).map (Entry.row adapter table)) :
    (table.upsertRow (adapter.given entry.metric entry.record)).rows =
      ((Entry.put stored entry).filter (Entry.goesTo adapter table.name)).map
        (Entry.row adapter table) := by
  have goes : entry.goesTo adapter table.name = true := Entry.goesTo_iff.2 named
  have own : (table.newRow (adapter.given entry.metric entry.record)).head? =
      (Entry.row adapter table entry).head? := rfl
  have taken : table.rows.any (·.head? = (Entry.row adapter table entry).head?) = true ↔
      entry.place ∈ stored.map Entry.place := by
    rw [rows, List.any_map, List.any_eq_true, List.mem_map]
    constructor
    · rintro ⟨old, kept, same⟩
      obtain ⟨mem, there⟩ := List.mem_filter.1 kept
      exact ⟨old, mem, (head?_row_eq_iff regular storable named made (fitting old mem) there).1
        (of_decide_eq_true same)⟩
    · rintro ⟨old, mem, same⟩
      have there : old.goesTo adapter table.name = true := by
        rw [Entry.goesTo_iff, Entry.table_of_place same, named]
      exact ⟨old, List.mem_filter.2 ⟨mem, there⟩, decide_eq_true
        ((head?_row_eq_iff regular storable named made (fitting old mem) there).2 same)⟩
  rw [Table.rows_upsertRow, own, Entry.put]
  by_cases place : entry.place ∈ stored.map Entry.place
  · rw [if_pos (taken.2 place), if_pos place, rows, List.map_map, List.filter_map, List.map_map]
    have there : Entry.goesTo adapter table.name ∘ Entry.overwrite entry =
        Entry.goesTo adapter table.name := by
      funext old
      exact Entry.goesTo_overwrite entry old table.name
    rw [there]
    apply List.map_congr_left
    intro old kept
    obtain ⟨mem, there⟩ := List.mem_filter.1 kept
    obtain ⟨metrics, kinds⟩ := same_metric regular storable named (fitting old mem) there
    have same := head?_row_eq_iff regular storable named made (fitting old mem) there
    simp only [Function.comp_apply, Table.rewrite, own, same, Entry.overwrite]
    split
    · rw [Entry.row, Entry.row, metrics, made.setRow_given kinds]
    · rfl
  · rw [if_neg (mt taken.1 place), if_neg place, List.filter_append, List.map_append, rows]
    simp [goes, Entry.row]

end Table

theorem write (stores : adapter.Stores stored database)
    (fitting : ∀ entry ∈ stored, entry.Storable adapter) {entry : Entry}
    (storable : entry.Storable adapter) {name : String}
    (named : entry.table adapter = .ok name) {after : Database}
    (written : database.update name
      (·.upsert (adapter.given entry.metric entry.record)) = .ok after) :
    adapter.Stores (Entry.put stored entry) after := by
  obtain ⟨found, mem, same, changed, upserted, rfl⟩ := Database.exists_of_update written
  -- the table found may be spelled otherwise, but only the table of the metric is named so
  obtain ⟨⟨metric, kind, bucket, has, own, made⟩, keyed, rows⟩ := stores.tables found mem
  obtain ⟨rfl, rfl⟩ := metric_eq_of_sameName regular has storable.has own named same
  obtain rfl := has.unique storable.has
  obtain rfl := Table.upsert_eq made.distinct made.typed_given upserted
  have row : Entry.row adapter (found.upsertRow (adapter.given entry.metric entry.record)) =
      Entry.row adapter found := by
    funext other
    rw [Entry.row, Table.newRow, Table.columns_upsertRow]
    rfl
  apply stores.replace mem named _ (found.name_upsertRow _)
  refine ⟨⟨_, _, bucket, has, ?_, ?_, ?_⟩, ?_, ?_⟩
  · rw [Table.name_upsertRow, own]
  · rw [Table.columns_upsertRow, made.columns]
  · rw [Table.Distinct, Table.columns_upsertRow]
    exact made.distinct
  · rw [Table.keyed_upsertRow, keyed]
  · rw [row, Table.name_upsertRow, rows_upsertRow regular storable named made fitting rows]

theorem carryOut (stores : adapter.Stores stored database)
    (fitting : ∀ entry ∈ stored, entry.Storable adapter) {entry : Entry}
    (storable : entry.Storable adapter) {write : String × List (String × Cell)}
    (prepared : adapter.write entry.metric entry.record = .ok write) {after : Database}
    (written : Relational.carryOut database write = .ok after) :
    adapter.Stores (Entry.put stored entry) after := by
  rw [write_eq regular storable.has rfl storable.aligned, Except.map_eq_ok_iff] at prepared
  obtain ⟨name, named, rfl⟩ := prepared
  obtain ⟨_, _, written⟩ := Except.bind_eq_ok_iff.1 written
  exact stores.write regular fitting storable named (refuse_eq_ok_iff.1 written)

/-- By induction on the records: each is written to a database that stores those before it. -/
theorem carryOutAll (stores : adapter.Stores stored database) {metric : String}
    {records : List Record} {writes : List (String × List (String × Cell))}
    (prepared : records.mapM (adapter.write metric) = .ok writes) {after : Database}
    (written : writes.foldlM Relational.carryOut database = .ok after)
    (fitting : ∀ entry ∈ stored, entry.Storable adapter)
    (storable : ∀ record ∈ records, Entry.Storable adapter ⟨metric, record⟩) :
    adapter.Stores ((records.map (Entry.mk metric)).foldl Entry.put stored) after := by
  induction records generalizing stored database writes with
  | nil =>
    cases prepared
    cases written
    exact stores
  | cons record rest ih =>
    rw [List.mapM_cons] at prepared
    obtain ⟨write, first, prepared⟩ := Except.bind_eq_ok_iff.1 prepared
    obtain ⟨others, preparedRest, eq⟩ := Except.bind_eq_ok_iff.1 prepared
    cases eq
    rw [List.foldlM_cons] at written
    obtain ⟨next, step, writtenRest⟩ := Except.bind_eq_ok_iff.1 written
    have own := storable record List.mem_cons_self
    rw [List.map_cons, List.foldl_cons]
    exact ih (stores.carryOut regular fitting own first step) preparedRest writtenRest
      (Entry.storable_put fitting own) fun other mem => storable other (List.mem_cons_of_mem _ mem)

theorem call {store after : Store} (stores : adapter.Stores stored store.database)
    (free : store.pool.Free) {call : Call} (ran : call.run adapter store = .ok after)
    (fitting : ∀ entry ∈ stored, entry.Storable adapter) (storable : call.Storable adapter) :
    adapter.Stores (call.entries.foldl Entry.put stored) after.database ∧ after.pool.Free := by
  cases call with
  | createTable model bucket =>
    rw [Call.run] at ran
    split at ran
    · next created =>
      cases ran
      obtain ⟨name, table, named, made, database, kept⟩ := createTable_eq_ok free created
      obtain ⟨kind, has⟩ := regular.registered model.name model storable
      obtain ⟨-, own, resolved, -, describes⟩ := regular.modelled model.name kind has
      obtain rfl : model = own := Except.ok.inj (storable.symm.trans resolved)
      rw [tableOf_eq regular has rfl describes name] at made
      cases made
      exact ⟨stores.create has named database, kept⟩
    · contradiction
  | insert metric records =>
    rw [Call.run] at ran
    split at ran
    · next inserted =>
      cases ran
      obtain ⟨writes, prepared, written, kept⟩ := insert_eq_ok free inserted
      exact ⟨stores.carryOutAll regular prepared written fitting storable, kept⟩
    · contradiction

end Stores

/-- By induction on the calls: after a run that succeeds the database stores what it stored before,
with the records of the calls put to it. -/
theorem stores_put_of_calls (regular : adapter.context.catalog.Regular) {calls : List Call}
    {stored : List Entry} {store after : Store} (stores : adapter.Stores stored store.database)
    (free : store.pool.Free) (ran : calls.foldlM (Call.run adapter) store = .ok after)
    (fitting : ∀ entry ∈ stored, entry.Storable adapter)
    (storable : ∀ call ∈ calls, call.Storable adapter) :
    adapter.Stores ((calls.flatMap Call.entries).foldl Entry.put stored) after.database ∧
      after.pool.Free := by
  induction calls generalizing stored store with
  | nil =>
    cases ran
    exact ⟨stores, free⟩
  | cons call rest ih =>
    rw [List.foldlM_cons] at ran
    obtain ⟨next, first, ranRest⟩ := Except.bind_eq_ok_iff.1 ran
    rw [List.forall_mem_cons] at storable
    obtain ⟨stores', free'⟩ := stores.call regular free first fitting storable.1
    rw [List.flatMap_cons, List.foldl_append]
    have fitting' := Entry.storable_foldl_put fitting (Call.storable_entries storable.1)
    exact ih stores' free' ranRest fitting' storable.2

/-- Where no two records are of one place, exactly the records of the calls are stored. -/
theorem stores_of_calls (regular : adapter.context.catalog.Regular) {calls : List Call}
    {stored : List Entry} {store after : Store} (stores : adapter.Stores stored store.database)
    (free : store.pool.Free) (ran : calls.foldlM (Call.run adapter) store = .ok after)
    (fitting : ∀ entry ∈ stored, entry.Fits adapter) (fits : ∀ call ∈ calls, call.Fits adapter)
    (unique : ((stored ++ calls.flatMap Call.entries).map Entry.place).Nodup) :
    adapter.Stores (stored ++ calls.flatMap Call.entries) after.database ∧ after.pool.Free := by
  rw [← Entry.foldl_put_of_nodup unique]
  exact stores_put_of_calls regular stores free ran (fun entry mem => (fitting entry mem).storable)
    fun call mem => (fits call mem).storable

end Relational

end Rollup
