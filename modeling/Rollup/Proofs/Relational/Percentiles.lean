import Rollup.Proofs.Relational.RoundTrip
import Rollup.Proofs.Relational.Transactions
import Mathlib

/-!
Percentiles that are written and read back. A record is aligned when it is written: percentiles for
other ranks than those of the adapter are calculated anew. So a run of calls does what the run of
the aligned calls does (`exists_aligned_run`), and what is read are the percentiles of the
observations for the ranks of the adapter, each under its rank (`percentiles_read_ranked`). Only the
ranks of a record are compared: if they were changed after the percentiles were calculated, or left
out when the record was stored elsewhere, the percentiles of other ranks are read.
-/
namespace Rollup

/-- The values were calculated from the observations, for some ranks. -/
def Percentile.Calculated (percentile : Percentile) : Prop :=
  ∃ ranks derived, ({ percentile with ranks } : Percentile).calculate = .ok derived ∧
    derived.values = percentile.values

namespace Relational

variable {adapter : Relational} {metric : String} {record aligned : Record}

/-- Alignment leaves a record as it is, or calculates its percentiles for the ranks of the
adapter. -/
theorem align_cases (h : adapter.align record = .ok aligned) :
    (aligned = record ∧ ∀ p, record.measure = .percentile p → p.ranks = adapter.context.ranks) ∨
      ∃ p derived, record.measure = .percentile p ∧ p.ranks ≠ adapter.context.ranks ∧
        ({ p with ranks := adapter.context.ranks } : Percentile).calculate = .ok derived ∧
        aligned = { record with measure := .percentile derived } := by
  obtain ⟨key, measure⟩ := record
  cases measure with
  | percentile p =>
    by_cases same : p.ranks = adapter.context.ranks
    · simp only [align, Record.setRanks, same, if_true, Except.ok.injEq] at h
      left
      simp [← h, same]
    · simp only [align, Record.setRanks, same, if_false] at h
      obtain ⟨measure, calculated, eq⟩ := Except.bind_eq_ok_iff.1 h
      cases eq
      obtain ⟨derived, found, eq⟩ := Except.bind_eq_ok_iff.1 calculated
      cases eq
      exact .inr ⟨p, derived, rfl, same, found, rfl⟩
  | _ =>
    cases h
    exact .inl ⟨rfl, by simp⟩

/-- Aligned percentiles are ranked as the adapter ranks them. -/
theorem ranks_of_align (h : adapter.align record = .ok aligned) :
    ∀ p, aligned.measure = .percentile p → p.ranks = adapter.context.ranks := by
  rcases align_cases h with ⟨rfl, ranked⟩ | ⟨p, derived, -, -, calculated, rfl⟩
  · exact ranked
  · rintro _ ⟨⟩
    rw [Percentile.eq_of_calculate calculated]

theorem align_of_ranked (ranked : ∀ p, record.measure = .percentile p →
    p.ranks = adapter.context.ranks) : adapter.align record = .ok record := by
  rw [align, Record.setRanks]
  cases measure : record.measure with
  | percentile p => simp [ranked p measure]
  | _ => rfl

theorem storable_of_align (h : adapter.align record = .ok aligned)
    (has : adapter.context.catalog.Has metric record.kind)
    (calculated : ∀ p, record.measure = .percentile p → p.Calculated) :
    Entry.Storable adapter ⟨metric, aligned⟩ := by
  refine ⟨(align_eq_ok h).2 ▸ has, ranks_of_align h, ?_⟩
  rcases align_cases h with ⟨rfl, -⟩ | ⟨p, derived, -, -, eq, rfl⟩
  · intro p percentile
    obtain ⟨ranks, derived, eq, values⟩ := calculated p percentile
    rw [← values]
    exact Percentile.counted_of_calculate eq
  · rintro _ ⟨⟩
    exact Percentile.counted_of_calculate eq

/-- The aligned record holds the percentiles of the observations for the ranks of the adapter, if
the record held them or was ranked otherwise. -/
theorem calculate_of_align (h : adapter.align record = .ok aligned) {p : Percentile}
    (percentile : record.measure = .percentile p)
    (current : p.ranks = adapter.context.ranks → p.calculate = .ok p) :
    ∃ derived, ({ p with ranks := adapter.context.ranks } : Percentile).calculate = .ok derived ∧
      aligned.measure = .percentile derived := by
  rcases align_cases h with ⟨rfl, ranked⟩ | ⟨q, derived, own, -, calculated, rfl⟩
  · have same := ranked p percentile
    exact ⟨p, by rw [← same, current same], percentile⟩
  · rw [percentile, Measure.percentile.injEq] at own
    subst own
    exact ⟨derived, calculated, rfl⟩

theorem write_of_align {write : Write} (h : adapter.write metric record = .ok write) :
    ∃ aligned, adapter.align record = .ok aligned ∧ adapter.write metric aligned = .ok write := by
  obtain ⟨table, named, h⟩ := Except.bind_eq_ok_iff.1 h
  obtain ⟨aligned, eq, h⟩ := Except.bind_eq_ok_iff.1 h
  refine ⟨aligned, eq, ?_⟩
  rw [Relational.write, (align_eq_ok eq).1, named, Except.ok_bind,
    align_of_ranked (ranks_of_align eq)]
  exact h

def Call.align (adapter : Relational) : Call → Outcome Call
  | createTable model bucket => .ok (createTable model bucket)
  | insert metric records => (records.mapM adapter.align).map (insert metric)

def Entry.align (adapter : Relational) (entry : Entry) : Outcome Entry :=
  (adapter.align entry.record).map (Entry.mk entry.metric)

/-- A call that succeeds does what the aligned call does. -/
theorem run_align {call : Call} {store after : Store} (ran : call.run adapter store = .ok after) :
    ∃ aligned, call.align adapter = .ok aligned ∧ aligned.run adapter store = .ok after := by
  cases call with
  | createTable model bucket => exact ⟨_, rfl, ran⟩
  | insert metric records =>
    rw [Call.run] at ran
    split at ran
    swap
    · contradiction
    next inserted =>
    cases ran
    obtain ⟨-, writes, made, -, -⟩ := writes_of_insert inserted
    obtain ⟨aligned, eq, written⟩ := Except.mapM_through (fun _ _ => write_of_align) made
    have same : adapter.insert metric aligned store = adapter.insert metric records store := by
      rw [insert, insert, made, written]
    refine ⟨.insert metric aligned, by rw [Call.align, eq]; rfl, ?_⟩
    rw [Call.run, same, inserted]

/-- By induction on the calls: a run that succeeds does what the run of the aligned calls does. -/
theorem exists_aligned_run {calls : List Call} {store after : Store}
    (ran : calls.foldlM (Call.run adapter) store = .ok after) :
    ∃ aligned, calls.mapM (Call.align adapter) = .ok aligned ∧
      aligned.foldlM (Call.run adapter) store = .ok after := by
  induction calls generalizing store with
  | nil => exact ⟨[], rfl, ran⟩
  | cons call rest ih =>
    rw [List.foldlM_cons] at ran
    obtain ⟨next, first, ran⟩ := Except.bind_eq_ok_iff.1 ran
    obtain ⟨own, eq, first⟩ := run_align first
    obtain ⟨others, eqs, later⟩ := ih ran
    refine ⟨own :: others, ?_, ?_⟩
    · rw [List.mapM_cons, eq, Except.ok_bind, eqs]
      rfl
    · rw [List.foldlM_cons, first, Except.ok_bind, later]

theorem entries_align {call aligned : Call} (h : call.align adapter = .ok aligned) :
    call.entries.mapM (Entry.align adapter) = .ok aligned.entries := by
  cases call with
  | createTable model bucket =>
    cases h
    rfl
  | insert metric records =>
    obtain ⟨own, eq, rfl⟩ := Except.map_eq_ok_iff.1 h
    rw [Except.mapM_eq_ok_iff] at eq ⊢
    rw [Call.entries, Call.entries, List.forall₂_map_left_iff, List.forall₂_map_right_iff]
    exact eq.imp fun _ _ same => by rw [Entry.align, same]; rfl

theorem entries_align_calls {calls aligned : List Call}
    (h : calls.mapM (Call.align adapter) = .ok aligned) :
    (calls.flatMap Call.entries).mapM (Entry.align adapter) =
      .ok (aligned.flatMap Call.entries) := by
  have pairs := Except.mapM_eq_ok_iff.1 h
  clear h
  induction pairs with
  | nil => rfl
  | cons here _ ih =>
    rw [List.flatMap_cons, List.flatMap_cons, List.mapM_append, entries_align here, Except.ok_bind,
      ih]
    rfl

namespace Entry

variable {stored later : List Entry} {entry : Entry}

theorem nodup_foldl_put {entries : List Entry} (unique : (stored.map place).Nodup) :
    ((entries.foldl put stored).map place).Nodup := by
  induction entries generalizing stored with
  | nil => exact unique
  | cons entry rest ih => exact ih (nodup_put unique entry)

/-- After an entry is written, it is stored at its place but for the owner. -/
theorem exists_mem_put (stored : List Entry) (entry : Entry) :
    ∃ old ∈ put stored entry, old.place = entry.place ∧
      old.record.measure = entry.record.measure ∧
      ∀ service, entry.record.key.service = some service →
        old.record.key.service = some service := by
  rw [put]
  split
  · next taken =>
    obtain ⟨old, mem, same⟩ := List.mem_map.1 taken
    refine ⟨overwrite entry old, List.mem_map_of_mem mem, ?_, ?_, ?_⟩
    · rw [place_overwrite, same]
    · rw [overwrite, if_pos same, Record.overwrite]
    · intro service owned
      rw [overwrite, if_pos same, Record.overwrite, owned]
      rfl
  · exact ⟨entry, List.mem_append_right _ (List.mem_singleton_self _), rfl, rfl, fun _ => id⟩

/-- Entries of other places leave what is stored at a place. -/
theorem mem_foldl_put_of_ne {old : Entry} (mem : old ∈ stored)
    (others : ∀ other ∈ later, other.place ≠ old.place) : old ∈ later.foldl put stored := by
  induction later generalizing stored with
  | nil => exact mem
  | cons other rest ih =>
    rw [List.forall_mem_cons] at others
    apply ih _ others.2
    rw [put]
    split
    · exact List.mem_map.2 ⟨old, mem, if_neg (Ne.symm others.1)⟩
    · exact List.mem_append_left _ mem

/-- The last entry of a place is stored in the end, but for the owner. -/
theorem exists_mem_foldl_put (before : List Entry)
    (last : ∀ other ∈ later, other.place ≠ entry.place) :
    ∃ old ∈ (before ++ entry :: later).foldl put stored, old.place = entry.place ∧
      old.record.measure = entry.record.measure ∧
      ∀ service, entry.record.key.service = some service →
        old.record.key.service = some service := by
  rw [List.foldl_append, List.foldl_cons]
  obtain ⟨old, mem, place, kept⟩ := exists_mem_put (before.foldl put stored) entry
  exact ⟨old, mem_foldl_put_of_ne mem (place ▸ last), place, kept⟩

end Entry

theorem exists_answers (regular : adapter.context.catalog.Regular) {stored : List Entry}
    {store : Store} (stores : adapter.Stores stored store.database) (free : store.pool.Free)
    (storable : ∀ entry ∈ stored, entry.Storable adapter) (unique : (stored.map Entry.place).Nodup)
    {request : Request} {bucket : Int64} {names : List String}
    (named : request.names.mapM (adapter.tableName · bucket) = .ok names) :
    ∃ results, (adapter.read request bucket store).1 = .ok results ∧
      Answers adapter.context.ranks stored request bucket results := by
  obtain ⟨pool, -, eq⟩ := Store.withConnection_eq free fun database =>
    (Outcome.ofExcept (readTables adapter.context database request bucket names), database)
  refine ⟨_, ?_, answers_collect unique request bucket⟩
  rw [read, named]
  simp only [eq]
  rw [readTables_storable regular stores storable named]
  rfl

theorem Answers.shows {ranks : List Int32} {stored : List Entry} {request : Request}
    {bucket : Int64} {results : List Result} (answers : Answers ranks stored request bucket results)
    (unique : (stored.map Entry.place).Nodup) {entry : Entry} (mem : entry ∈ stored)
    (asked : entry.metric ∈ request.names)
    (isAsked : entry.isAsked request.scope bucket entry.metric = true) :
    (∃ result ∈ results, result.id = entry.record.id) ∧
      ∀ result ∈ results, result.id = entry.record.id →
        (∃ set ∈ result.sets, set.label = entry.metric) ∧
          ∀ set ∈ result.sets, set.label = entry.metric →
            set.values = entry.record.shown ranks := by
  have found := (answers.ids entry.record.id).2 ⟨_, asked, entry, mem, isAsked, rfl⟩
  refine ⟨List.mem_map.1 found, fun result listed id => ?_⟩
  have own : (stored.find? fun other =>
      other.isAsked request.scope bucket entry.metric && other.record.id = result.id) =
        some entry := by
    have some : (stored.find? fun other =>
        other.isAsked request.scope bucket entry.metric && other.record.id = result.id).isSome := by
      rw [List.find?_isSome]
      exact ⟨entry, mem, by simp [isAsked, id]⟩
    obtain ⟨other, eq⟩ := Option.isSome_iff_exists.1 some
    have test := List.find?_some eq
    simp only [Entry.isAsked, Bool.and_eq_true, decide_eq_true_eq] at test
    have place := Entry.place_eq_iff.2 ⟨test.1.1, test.2.trans id⟩
    rw [eq, List.inj_on_of_nodup_map unique (List.mem_of_find?_eq_some eq) mem place]
  rw [answers.sets result listed]
  constructor
  · refine ⟨⟨entry.metric, entry.record.shown ranks⟩, List.mem_filterMap.2 ⟨_, asked, ?_⟩, rfl⟩
    rw [own, Option.map_some]
  · intro set mem label
    obtain ⟨metric, -, eq⟩ := List.mem_filterMap.1 mem
    obtain ⟨other, found, rfl⟩ := Option.map_eq_some_iff.1 eq
    cases label
    rw [own, Option.some.injEq] at found
    rw [found]

/-- The call creates the table of a model of the catalog, or writes records of the kind of their
metric whose percentiles were calculated, for whatever ranks. -/
def Call.Calculated (adapter : Relational) : Call → Prop
  | createTable model _ => adapter.context.catalog.metadata.resolve model.name = .ok model
  | insert metric records => ∀ record ∈ records,
    adapter.context.catalog.Has metric record.kind ∧
      ∀ p, record.measure = .percentile p → p.Calculated

theorem Call.Calculated.storable {call aligned : Call} (calculated : call.Calculated adapter)
    (h : call.align adapter = .ok aligned) : aligned.Storable adapter := by
  cases call with
  | createTable model bucket =>
    cases h
    exact calculated
  | insert metric records =>
    obtain ⟨own, eq, rfl⟩ := Except.map_eq_ok_iff.1 h
    intro record mem
    obtain ⟨source, listed, same⟩ := (Except.mem_of_mapM_eq_ok eq).2 record mem
    exact storable_of_align same (calculated source listed).1 (calculated source listed).2

theorem Entry.place_of_align {entry aligned : Entry} (h : entry.align adapter = .ok aligned) :
    aligned.place = entry.place := by
  obtain ⟨record, eq, rfl⟩ := Except.map_eq_ok_iff.1 h
  rw [place, place, (align_eq_ok eq).1]

/-- Of aligned entries, too, the last one of a place is stored in the end. -/
theorem exists_mem_foldl_put_align {before later aligned : List Entry} {entry : Entry}
    (h : (before ++ entry :: later).mapM (Entry.align adapter) = .ok aligned)
    (last : ∀ other ∈ later, other.place ≠ entry.place) :
    ∃ record, adapter.align entry.record = .ok record ∧
      ∃ old ∈ aligned.foldl Entry.put [], old.place = entry.place ∧
        old.record.measure = record.measure ∧
        ∀ service, entry.record.key.service = some service →
          old.record.key.service = some service := by
  obtain ⟨firsts, own, lasts, -, here, there, rfl⟩ := Except.mapM_append_cons_eq_ok h
  have place := Entry.place_of_align here
  have others : ∀ other ∈ lasts, other.place ≠ own.place := by
    intro other mem
    obtain ⟨source, listed, same⟩ := (Except.mem_of_mapM_eq_ok there).2 other mem
    rw [Entry.place_of_align same, place]
    exact last source listed
  obtain ⟨old, mem, placed, measure, service⟩ := Entry.exists_mem_foldl_put firsts others
  obtain ⟨record, aligned, rfl⟩ := Except.map_eq_ok_iff.1 here
  refine ⟨record, aligned, old, mem, placed.trans place, measure, ?_⟩
  rw [← (align_eq_ok aligned).1]
  exact service

theorem Entry.isAsked_of_place {entry old : Entry} (place : old.place = entry.place)
    (service : ∀ service, entry.record.key.service = some service →
      old.record.key.service = some service) {scope : Scope}
    (admits : scope.admits entry.record.key = true) :
    old.isAsked scope entry.record.key.bucket entry.metric = true := by
  simp only [Entry.place, Prod.mk.injEq] at place
  simp only [Scope.admits, Bool.or_eq_true, decide_eq_true_eq] at admits
  rw [Entry.isAsked, Record.matches, Scope.admits, place.1, place.2.1, place.2.2]
  rcases admits with unrestricted | admits
  · simp [unrestricted]
  · cases own : scope.isService
    · simp [own] at admits
      simp [service _ admits]
    · simp [own] at admits
      simp [admits]

/-- A record that stands last at its place is read with the percentiles of its observations for the
ranks of the adapter, each under the rank at its index, unless it carries these ranks with
percentiles of others. -/
theorem percentiles_read_ranked (regular : adapter.context.catalog.Regular) {size : Nat}
    {calls : List Call} {store : Store}
    (ran : calls.foldlM (Call.run adapter) (Store.ofSize size) = .ok store)
    (calculated : ∀ call ∈ calls, call.Calculated adapter) {before later : List Entry}
    {entry : Entry} (written : calls.flatMap Call.entries = before ++ entry :: later)
    (last : ∀ other ∈ later, other.place ≠ entry.place) {p : Percentile}
    (percentile : entry.record.measure = .percentile p)
    (current : p.ranks = adapter.context.ranks → p.calculate = .ok p) :
    ∃ derived, ({ p with ranks := adapter.context.ranks } : Percentile).calculate = .ok derived ∧
      ∀ request : Request, entry.metric ∈ request.names →
        request.scope.admits entry.record.key = true →
        ∃ results, (adapter.read request entry.record.key.bucket store).1 = .ok results ∧
          (∃ result ∈ results, result.id = entry.record.id) ∧
          ∀ result ∈ results, result.id = entry.record.id →
            (∃ set ∈ result.sets, set.label = entry.metric) ∧
            ∀ set ∈ result.sets, set.label = entry.metric →
              set.values = derived.values.entries.filterMap fun (index, value) =>
                adapter.context.ranks[index.toNat]?.map fun rank =>
                  ⟨Numeral.render rank.toInt, value⟩ := by
  obtain ⟨aligned, eq, ranAligned⟩ := exists_aligned_run ran
  have storable : ∀ call ∈ aligned, call.Storable adapter := by
    intro call mem
    obtain ⟨source, listed, same⟩ := (Except.mem_of_mapM_eq_ok eq).2 call mem
    exact (calculated source listed).storable same
  have storableEntries : ∀ entry ∈ aligned.flatMap Call.entries, entry.Storable adapter := by
    intro entry mem
    obtain ⟨call, listed, mem⟩ := List.mem_flatMap.1 mem
    exact Call.storable_entries (storable call listed) entry mem
  obtain ⟨stores, free⟩ := stores_put_of_calls regular (Stores.empty : adapter.Stores [] _)
    (Pool.free_ofSize size) ranAligned nofun storable
  have entries := entries_align_calls eq
  rw [written] at entries
  obtain ⟨record, alignedRecord, old, mem, place, measure, service⟩ :=
    exists_mem_foldl_put_align entries last
  obtain ⟨derived, found, shown⟩ := calculate_of_align alignedRecord percentile current
  refine ⟨derived, found, fun request asked admits => ?_⟩
  have unique : (((aligned.flatMap Call.entries).foldl Entry.put []).map Entry.place).Nodup :=
    Entry.nodup_foldl_put .nil
  obtain ⟨table, -, named⟩ := stores.complete old mem
  rw [Entry.table_of_place place, Entry.table] at named
  obtain ⟨names, all⟩ := exists_names named request.names
  obtain ⟨results, read, answers⟩ := exists_answers regular stores free
    (Entry.storable_foldl_put nofun storableEntries) unique all
  obtain ⟨metric, ids⟩ := Entry.place_eq_iff.1 place
  have isAsked := Entry.isAsked_of_place place service admits
  rw [← metric] at asked isAsked ⊢
  rw [← ids]
  refine ⟨results, read, ?_⟩
  have shows := answers.shows unique mem asked isAsked
  rw [Record.shown, measure, shown] at shows
  exact shows

/-- Percentiles that were calculated for the rank 10 are read for the default ranks. -/
theorem percentiles_read_ranked_anew :
    let model := Model.ofKind "m" .percentile
    let adapter : Relational :=
      ⟨.ofCatalog ⟨⟨[.ofKind "m" .percentile]⟩, ⟨[("m", model)], none⟩⟩, ""⟩
    let dataset := Histogram.ofList [(1, 50), (100, 50)]
    let record : Record :=
      ⟨⟨"a", none, 20240101⟩, .percentile ⟨1, dataset, Histogram.ofList [(0, 1)], [10]⟩⟩
    let calls := [Call.createTable model 20240101, .insert "m" [record]]
    let request : Request := ⟨["m"], Scope.service "a"⟩
    ∃ store results, calls.foldlM (Call.run adapter) (Store.ofSize 1) = .ok store ∧
      (adapter.read request 20240101 store).1 = .ok results ∧
      (∃ result ∈ results, result.id = "20240101_a") ∧
      ∀ result ∈ results, result.id = "20240101_a" →
        (∃ set ∈ result.sets, set.label = "m") ∧
        ∀ set ∈ result.sets, set.label = "m" →
          set.values = [⟨"50", 1⟩, ⟨"75", 100⟩, ⟨"90", 100⟩, ⟨"95", 100⟩, ⟨"99", 100⟩] := by
  intro model adapter dataset record calls request
  have described : model.Describes .percentile := Model.describes_ofKind ..
  have regular : adapter.context.catalog.Regular :=
    Catalog.regular_single (by decide : Kind.percentile ≠ .singleValue) described none
  have calculated : ∀ call ∈ calls, call.Calculated adapter := by
    intro call mem
    rcases List.mem_cons.1 mem with rfl | mem
    · exact (rfl : adapter.context.catalog.metadata.resolve model.name = .ok model)
    · cases List.mem_singleton.1 mem
      intro written mem
      cases List.mem_singleton.1 mem
      refine ⟨⟨_, rfl, rfl⟩, ?_⟩
      rintro _ ⟨⟩
      exact ⟨[10], ⟨1, dataset, Histogram.ofList [(0, 1)], [10]⟩, by decide +kernel, rfl⟩
  have succeeds : (calls.foldlM (Call.run adapter) (Store.ofSize 1)).isOk = true := by
    decide +kernel
  obtain ⟨store, ran⟩ := Except.isOk_iff.1 succeeds
  have written : calls.flatMap Call.entries = [] ++ ⟨"m", record⟩ :: [] := rfl
  have other : ([10] : List Int32) ≠ adapter.context.ranks := by decide
  obtain ⟨derived, found, reads⟩ := percentiles_read_ranked regular ran calculated written nofun
    rfl fun same => absurd same other
  obtain ⟨results, read, shows⟩ := reads request (.head _) (by decide)
  have expected : (Percentile.mk 1 dataset (Histogram.ofList [(0, 1)])
      adapter.context.ranks).calculate = .ok ⟨1, dataset,
        Histogram.ofList [(0, 1), (1, 100), (2, 100), (3, 100), (4, 100)],
        adapter.context.ranks⟩ := by
    decide +kernel
  obtain rfl := Except.ok.inj (expected.symm.trans found)
  have id : record.id = "20240101_a" := by decide +kernel
  have pairs : (Histogram.ofList [(0, 1), (1, 100), (2, 100), (3, 100), (4, 100)]
      |>.entries.filterMap fun (index, value) =>
        adapter.context.ranks[index.toNat]?.map fun rank =>
          (⟨Numeral.render rank.toInt, value⟩ : NamedValue)) =
      [⟨"50", 1⟩, ⟨"75", 100⟩, ⟨"90", 100⟩, ⟨"95", 100⟩, ⟨"99", 100⟩] := by
    decide +kernel
  rw [id, pairs] at shows
  exact ⟨store, results, ran, read, shows⟩

/-- A record with percentiles for the rank 10 that carries the default ranks, as when the ranks were
left out in between. The percentile is read under the rank 50, and those of the other ranks are
missing. -/
theorem percentiles_mislabelled :
    let model := Model.ofKind "m" .percentile
    let adapter : Relational :=
      ⟨.ofCatalog ⟨⟨[.ofKind "m" .percentile]⟩, ⟨[("m", model)], none⟩⟩, ""⟩
    let dataset := Histogram.ofList [(1, 50), (100, 50)]
    let percentile : Percentile :=
      ⟨1, dataset, Histogram.ofList [(0, 1)], adapter.context.ranks⟩
    let calls := [Call.createTable model 20240101,
      .insert "m" [⟨⟨"a", none, 20240101⟩, .percentile percentile⟩]]
    let request : Request := ⟨["m"], Scope.service "a"⟩
    ({ percentile with ranks := [10] } : Percentile).calculate =
        .ok { percentile with ranks := [10] } ∧
      percentile.calculate = .ok { percentile with
        values := Histogram.ofList [(0, 1), (1, 100), (2, 100), (3, 100), (4, 100)] } ∧
      (do
        let store ← calls.foldlM (Call.run adapter) (Store.ofSize 1)
        (adapter.read request 20240101 store).1) =
          .ok [⟨"20240101_a", "a", "20240101", [⟨"m", [⟨"50", 1⟩]⟩]⟩] := by
  decide +kernel

end Relational

end Rollup
