import Rollup.Proofs.Bucket.PhysicalNames
import Rollup.Proofs.Query.Decoding
import Rollup.Proofs.Query.Grouping
import Rollup.Proofs.Relational.RowOrder
import Rollup.Storage.Backend

/-!
What every answer looks like, whichever storage gives it (`Result.Answers`), and that names without
a kind or without a model have no part in it. Main statement: `unknown_names_are_inert`, requests
that agree in their known names are answered alike.
-/
namespace Rollup

/-- Results that answer a request at a bucket: one for each id, all of the scope and the bucket
asked for, with values of the metrics asked for. -/
structure Result.Answers (request : Request) (bucket : Int64) (results : List Result) : Prop where
  distinct : (results.map (·.id)).Nodup
  located : ∀ result ∈ results,
    result.entity = request.scope.id ∧ result.bucket = Numeral.render bucket.toInt
  labelled : ∀ result ∈ results, ∀ set ∈ result.sets, set.label ∈ request.names

theorem Result.mem_setsOf {found : List (String × ValueSet)} {id : String} {set : ValueSet} :
    set ∈ setsOf found id ↔ (id, set) ∈ found := by
  rw [setsOf_eq_map_filter, List.mem_map]
  constructor
  · rintro ⟨⟨other, set⟩, kept, rfl⟩
    obtain ⟨mem, same⟩ := List.mem_filter.1 kept
    exact (of_decide_eq_true same : other = id) ▸ mem
  · exact fun mem => ⟨(id, set), List.mem_filter.2 ⟨mem, decide_eq_true rfl⟩, rfl⟩

variable {request : Request} {bucket : Int64} {results : List Result}

theorem Result.answers_collect {found : List (String × ValueSet)}
    (labelled : ∀ entry ∈ found, entry.2.label ∈ request.names) :
    Answers request bucket (collect request.scope bucket found) := by
  rw [collect_eq]
  refine ⟨?_, fun result mem => ?_, fun result mem set held => ?_⟩
  · rw [List.map_map]
    exact (List.map_id _).symm ▸ nodup_idsOf found
  · obtain ⟨id, -, rfl⟩ := List.mem_map.1 mem
    exact ⟨rfl, rfl⟩
  · obtain ⟨id, -, rfl⟩ := List.mem_map.1 mem
    exact labelled (id, set) (mem_setsOf.1 held)

theorem Decoder.label_of_decodeRow {context : Context} {metric id : String} {row : Row}
    {set : ValueSet} (h : decodeRow context metric row = .ok (some (id, set))) :
    set.label = metric := by
  obtain ⟨text, -, h⟩ := Except.bind_eq_ok_iff.1 h
  cases text with
  | none => cases h
  | some own =>
    dsimp only at h
    split at h
    · cases h
    · obtain ⟨decoded, done, eq⟩ := Except.bind_eq_ok_iff.1 h
      cases eq
      exact label_of_decode done

theorem Decoder.exists_of_mapM_decodeRow {α : Type} {context : Context} {metric : String}
    {rowOf : α → Row} {items : List α} {found : List (String × ValueSet)}
    (h : ((items.mapM fun item => decodeRow context metric (rowOf item)).map
      (List.filterMap id)) = .ok found) :
    ∀ entry ∈ found, ∃ item ∈ items, decodeRow context metric (rowOf item) = .ok (some entry) := by
  obtain ⟨decoded, pass, rfl⟩ := Except.map_eq_ok_iff.1 h
  intro entry mem
  obtain ⟨_, listed, rfl⟩ := List.mem_filterMap.1 mem
  exact (Except.mem_of_mapM_eq_ok pass).2 _ listed

namespace Document

theorem answers_of_read {adapter : Adapter} {sent : List Search}
    (h : (adapter.read request bucket sent).1 = .ok results) :
    Result.Answers request bucket results := by
  rw [Adapter.read] at h
  split at h
  · contradiction
  next names derived =>
  obtain ⟨hits, -, h⟩ := Except.bind_eq_ok_iff.1 (Outcome.ofExcept_eq_ok_iff.1 h)
  obtain ⟨found, pass, eq⟩ := Except.bind_eq_ok_iff.1 h
  cases eq
  obtain ⟨tail, listed, -⟩ := PhysicalNames.ofRequest_eq_ok derived
  apply Result.answers_collect
  intro entry mem
  obtain ⟨_, kept, rfl⟩ := List.mem_filterMap.1 mem
  obtain ⟨hit, -, here⟩ := (Except.mem_of_mapM_eq_ok pass).2 _ kept
  rw [readHit] at here
  split at here
  · cases here
  · split at here
    · contradiction
    · next metric behind =>
      obtain ⟨set, decoded, eq⟩ := Except.bind_eq_ok_iff.1 here
      cases eq
      rw [PhysicalNames.metric?_eq_find? listed] at behind
      rw [Decoder.label_of_decode decoded]
      exact List.mem_reverse.1 (List.mem_of_find?_eq_some behind)

end Document

namespace TimeSeries

variable {adapter : Adapter}

theorem label_of_readSeries {series : Series} {found : List (String × ValueSet)}
    (h : readSeries adapter.context (adapter.metric? request.names) series = .ok found) :
    ∀ entry ∈ found, entry.2.label ∈ request.names := by
  rw [readSeries] at h
  split at h
  · contradiction
  next metric behind =>
  rw [Except.bind_ok_eq_map] at h
  intro entry mem
  obtain ⟨_, -, here⟩ := Decoder.exists_of_mapM_decodeRow h entry mem
  rw [Decoder.label_of_decodeRow here]
  rw [Adapter.metric?, ← List.map_reverse] at behind
  have first := (lookup_map_key adapter.client.format _ _).symm.trans behind
  exact List.mem_reverse.1 (List.mem_of_find?_eq_some first)

theorem answers_of_readResults {answered : List StatementResult}
    (h : adapter.readResults request bucket answered = .ok results) :
    Result.Answers request bucket results := by
  obtain ⟨found, pass, eq⟩ := Except.bind_eq_ok_iff.1 h
  cases eq
  apply Result.answers_collect
  intro entry mem
  obtain ⟨part, listed, mem⟩ := List.mem_flatten.1 mem
  obtain ⟨result, -, here⟩ := (Except.mem_of_mapM_eq_ok pass).2 _ listed
  rw [readResult] at here
  split at here
  · contradiction
  · obtain ⟨series, each, rfl⟩ := Except.map_eq_ok_iff.1 here
    obtain ⟨own, kept, mem⟩ := List.mem_flatten.1 mem
    obtain ⟨shown, -, here⟩ := (Except.mem_of_mapM_eq_ok each).2 _ kept
    exact label_of_readSeries here entry mem

end TimeSeries

namespace Relational

/-- What one table holds for a metric is decoded from its rows. -/
theorem exists_row_of_readTable {context : Context} {database : Database} {scope : Scope}
    {metric name : String} {found : List (String × ValueSet)}
    (h : readTable context database scope bucket metric name = .ok found) :
    ∀ entry ∈ found, ∃ table ∈ database.tables, sameName table.name name = true ∧
      ∃ cells ∈ table.rows, Decoder.decodeRow context metric (row table cells) =
        .ok (some entry) := by
  rw [readTable] at h
  split at h
  · cases h
    exact List.forall_mem_nil _
  next table held =>
  split at h
  · split at h
    · contradiction
    next rows selected =>
    intro entry mem
    obtain ⟨cells, listed, decoded⟩ := Decoder.exists_of_mapM_decodeRow h entry mem
    exact ⟨table, List.mem_of_find?_eq_some held, by simpa using List.find?_some held, cells,
      (Table.sublist_of_select selected).subset listed, decoded⟩
  · cases h
    exact List.forall_mem_nil _

/-- Every set that is read is decoded from a row in the table of a metric that was asked for. -/
theorem exists_row_of_read {adapter : Relational} {store : Store}
    (h : (adapter.read request bucket store).1 = .ok results) :
    ∃ found, results = Result.collect request.scope bucket found ∧ ∀ entry ∈ found,
      entry.2.label ∈ request.names ∧ ∃ name, adapter.tableName entry.2.label bucket = .ok name ∧
        ∃ table ∈ store.database.tables, sameName table.name name = true ∧ ∃ cells ∈ table.rows,
          Decoder.decodeRow adapter.context entry.2.label (row table cells) = .ok (some entry) := by
  rw [read] at h
  split at h
  · contradiction
  next tables named =>
  by_cases free : store.pool.Free
  · obtain ⟨_, -, ran⟩ := Store.withConnection_eq free fun database =>
      (Outcome.ofExcept (readTables adapter.context database request bucket tables), database)
    rw [ran] at h
    obtain ⟨found, pass, eq⟩ := Except.bind_eq_ok_iff.1 (Outcome.ofExcept_eq_ok_iff.1 h)
    cases eq
    refine ⟨_, rfl, fun entry mem => ?_⟩
    obtain ⟨part, listed, mem⟩ := List.mem_flatten.1 mem
    obtain ⟨⟨metric, name⟩, asked, here⟩ := (Except.mem_of_mapM_eq_ok pass).2 _ listed
    obtain ⟨table, held, same, cells, kept, decoded⟩ := exists_row_of_readTable here entry mem
    rw [Decoder.label_of_decodeRow decoded]
    exact ⟨(List.of_mem_zip asked).1, name,
      (List.forall₂_iff_zip.1 (Except.mapM_eq_ok_iff.1 named)).2 asked,
      table, held, same, cells, kept, decoded⟩
  · rw [Store.withConnection_of_not_free free] at h
    contradiction

theorem answers_of_read {adapter : Relational} {store : Store}
    (h : (adapter.read request bucket store).1 = .ok results) :
    Result.Answers request bucket results := by
  obtain ⟨found, rfl, source⟩ := exists_row_of_read h
  exact Result.answers_collect fun entry mem => (source entry mem).1

end Relational

theorem Backend.answers_of_read {backend : Backend}
    (h : (Backend.read request bucket backend).1 = .ok results) :
    Result.Answers request bucket results := by
  cases backend with
  | document adapter sent => exact Document.answers_of_read h
  | timeSeries adapter sent =>
    obtain ⟨_, -, h⟩ := Except.bind_eq_ok_iff.1 (Outcome.ofExcept_eq_ok_iff.1 h)
    exact TimeSeries.answers_of_readResults h
  | relational adapter store => exact Relational.answers_of_read h

namespace Service

variable {State : Type}

/-- A request at a bucket of an accepted width goes to the storage with its known names, if there
is one. -/
theorem read_of_wide {granularity : Granularity}
    (wide : Bucket.granularity bucket.toInt = .ok granularity) (catalog : Catalog)
    (storage : Storage State) (request : Request) (state : State) :
    read catalog storage request bucket state =
      if knownNames catalog request.names = [] then (.ok [], state)
      else storage ⟨knownNames catalog request.names, request.scope⟩ bucket state := by
  rw [read, wide]
  dsimp only
  split
  · next none => rw [if_pos none]
  · next some => rw [if_neg some]

/-- Names without a kind or without a model have no part in a query. Where two requests of one scope
have the same known names, backends that answer the adapters' requests alike make the service answer
alike, and one backend is even left in the same state. Without a known name the answer is empty
whatever the storage would do, and every answer has one result for each id, all of the scope and the
bucket, with known names that were requested for labels. -/
theorem unknown_names_are_inert (catalog : Catalog) {names others : List String} (scope : Scope)
    {bucket : Int64} {granularity : Granularity}
    (wide : Bucket.granularity bucket.toInt = .ok granularity)
    (same : knownNames catalog names = knownNames catalog others) :
    (∀ former latter : Backend,
      (Backend.read ⟨knownNames catalog names, scope⟩ bucket former).1 =
        (Backend.read ⟨knownNames catalog others, scope⟩ bucket latter).1 →
      (read catalog Backend.read ⟨names, scope⟩ bucket former).1 =
        (read catalog Backend.read ⟨others, scope⟩ bucket latter).1) ∧
    (∀ backend : Backend, read catalog Backend.read ⟨names, scope⟩ bucket backend =
      read catalog Backend.read ⟨others, scope⟩ bucket backend) ∧
    (knownNames catalog names = [] → ∀ {State : Type} (storage : Storage State) (state : State),
      read catalog storage ⟨names, scope⟩ bucket state = (.ok [], state)) ∧
    ∀ (backend : Backend) (results : List Result),
      (read catalog Backend.read ⟨names, scope⟩ bucket backend).1 = .ok results →
      Result.Answers ⟨knownNames catalog names, scope⟩ bucket results := by
  refine ⟨fun former latter alike => ?_, fun backend => ?_, fun none _ storage state => ?_,
    fun backend results answered => ?_⟩
  · rw [read_of_wide wide, read_of_wide wide, ← same]
    rw [← same] at alike
    split
    · rfl
    · exact alike
  · rw [read_of_wide wide, read_of_wide wide, same]
  · rw [read_of_wide wide, if_pos none]
  · rw [read_of_wide wide] at answered
    split at answered
    · cases answered
      exact ⟨.nil, nofun, nofun⟩
    · exact Backend.answers_of_read answered

/-- A sum is asked for beside names that nothing is known of. -/
theorem unknown_names_are_inert_beside_a_sum :
    let catalog : Catalog := ⟨⟨[.ofKind "m" .sum]⟩, (Metadata.empty none).add (.ofKind "m" .sum)⟩
    let row : List Json := [.string "20240101_a", .number (.integer 3)]
    let backend : Backend := .timeSeries
      ⟨⟨id, fun _ => .ok [⟨[⟨"m", ["id", "value"], [row]⟩], none⟩]⟩, .ofCatalog catalog, "db"⟩ []
    let results : List Result := [⟨"20240101_a", "", "20240101", [⟨"m", [⟨"value", 3⟩]⟩]⟩]
    (read catalog Backend.read ⟨["x", "m"], .unrestricted⟩ 20240101 backend).1 = .ok results ∧
      read catalog Backend.read ⟨["x", "m"], .unrestricted⟩ 20240101 backend =
        read catalog Backend.read ⟨["m", "y"], .unrestricted⟩ 20240101 backend ∧
      Result.Answers ⟨["m"], .unrestricted⟩ 20240101 results := by
  intro catalog row backend results
  have answered :
      (read catalog Backend.read ⟨["x", "m"], .unrestricted⟩ 20240101 backend).1 = .ok results := by
    rfl
  have same : knownNames catalog ["x", "m"] = knownNames catalog ["m", "y"] := by rfl
  have wide : Bucket.granularity (20240101 : Int64).toInt = .ok .day := by rfl
  obtain ⟨-, alike, -, answers⟩ := unknown_names_are_inert catalog .unrestricted wide same
  exact ⟨answered, alike backend, answers backend results answered⟩

end Service

end Rollup
