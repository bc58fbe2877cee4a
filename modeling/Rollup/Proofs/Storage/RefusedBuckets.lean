import Rollup.Proofs.Bucket.CalendarDays
import Rollup.Proofs.Relational.RowOrder
import Rollup.Proofs.Storage.Answers

/-!
Buckets that storages refuse. A bucket may have an accepted width and still lie on no day of the
calendar. Storages that derive a partition from the bucket refuse it then, a time-series database
does not (`refuses_iff`), so the three agree on all other buckets only (`refusals_agree_iff`).
-/
namespace Rollup

/-- An outcome that turns a time bucket down. -/
def Outcome.Refuses {α : Type} (outcome : Outcome α) : Prop :=
  ∃ error, outcome = .error (.error error) ∧ error.category = .timeBucket

namespace Outcome

variable {α β γ : Type}

theorem not_refuses_ok (value : α) : ¬ Refuses (.ok value : Outcome α) := by
  rintro ⟨error, eq, -⟩
  contradiction

theorem refuses_timeBucket (bucket : Int) :
    Refuses (.error (.error (.timeBucket bucket)) : Outcome α) :=
  ⟨_, rfl, rfl⟩

theorem refuses_error_iff (failure : Failure) :
    Refuses (.error failure : Outcome α) ↔ Refuses (.error failure : Outcome β) := by
  simp [Refuses]

theorem refuses_bind_iff {x : Outcome α} {f : α → Outcome β} :
    Refuses (x >>= f) ↔ Refuses x ∨ ∃ a, x = .ok a ∧ Refuses (f a) := by
  cases x with
  | error failure => simp [Refuses, bind, Except.bind]
  | ok a => simp [Refuses, bind, Except.bind]

theorem refuses_map_iff {x : Outcome α} {f : α → β} : Refuses (x.map f) ↔ Refuses x := by
  cases x <;> simp [Refuses, Except.map]

theorem refuses_mapM_iff {x : Outcome α} {f : β → Outcome γ} {g : β → α → γ}
    (rests : ∀ item, f item = x.map (g item)) {items : List β} (some : items ≠ []) :
    Refuses (items.mapM f) ↔ Refuses x := by
  rw [Except.mapM_eq_map rests some, refuses_map_iff]

end Outcome

namespace Bucket

def Wide (bucket : Int64) : Prop :=
  ∃ granularity, Bucket.granularity bucket.toInt = .ok granularity

/-- The bucket has such a width, and its day is the stamp of a date in the calendar. -/
def Dated (bucket : Int64) : Prop :=
  ∃ date : Date, date.valid = true ∧ toDay bucket.toInt = .ok date.stamp

theorem not_wide_of_error {bucket : Int64} {error : Error}
    (h : granularity bucket.toInt = .error error) : ¬ Wide bucket := by
  rintro ⟨g, wide⟩
  rw [h] at wide
  contradiction

theorem refuses_granularity_iff {bucket : Int64} :
    Outcome.Refuses (.ofExcept (granularity bucket.toInt)) ↔ ¬ Wide bucket := by
  cases width : granularity bucket.toInt with
  | ok g => exact iff_of_false (Outcome.not_refuses_ok g) fun absent => absent ⟨g, width⟩
  | error error =>
    rw [eq_of_granularity_error width]
    exact iff_of_true (Outcome.refuses_timeBucket _) (not_wide_of_error width)

theorem refuses_ofDay_iff {bucket : Int64} {g : Granularity}
    (wide : granularity bucket.toInt = .ok g) (dayStep : Nat) :
    Outcome.Refuses (Partition.ofDay (dayOf bucket.toInt g) dayStep) ↔ ¬ Dated bucket := by
  have cut : toDay bucket.toInt = .ok (dayOf bucket.toInt g) := toDay_eq_ok_iff.2 ⟨g, wide, rfl⟩
  have day := granularity_of_toDay cut
  rw [Partition.ofDay, Dated, cut]
  cases found : Partition.dateOf? (dayOf bucket.toInt g) with
  | none =>
    refine iff_of_true (Outcome.refuses_timeBucket _) ?_
    rintro ⟨date, valid, same⟩
    rw [(Partition.dateOf?_eq_some_iff day).2 ⟨valid, (Except.ok.inj same).symm⟩] at found
    contradiction
  | some date =>
    obtain ⟨valid, stamped⟩ := (Partition.dateOf?_eq_some_iff day).1 found
    refine iff_of_false ?_ fun undated => undated ⟨date, valid, congrArg _ stamped.symm⟩
    rintro ⟨error, failed, -⟩
    -- a partition that starts before the first date ends the run and is no refusal
    dsimp only at failed
    repeat' split at failed
    all_goals cases failed

theorem wide_of_dated {bucket : Int64} (dated : Dated bucket) : Wide bucket := by
  obtain ⟨date, -, cut⟩ := dated
  obtain ⟨g, wide, -⟩ := toDay_eq_ok_iff.1 cut
  exact ⟨g, wide⟩

theorem refuses_partition_iff {α : Type} {bucket : Int64} {dayStep : Nat}
    {next : Granularity → Outcome α}
    (rests : ∀ g, (next g).Refuses ↔
      (Partition.ofDay (dayOf bucket.toInt g) dayStep).Refuses) :
    Outcome.Refuses (Outcome.ofExcept (granularity bucket.toInt) >>= next) ↔ ¬ Dated bucket := by
  rw [Outcome.refuses_bind_iff, refuses_granularity_iff]
  constructor
  · rintro (narrow | ⟨g, wide, refused⟩)
    · exact mt wide_of_dated narrow
    · exact (refuses_ofDay_iff (Outcome.ofExcept_eq_ok_iff.1 wide) dayStep).1 ((rests g).1 refused)
  · intro undated
    by_cases wide : Wide bucket
    · obtain ⟨g, wide⟩ := wide
      have refused := (refuses_ofDay_iff wide dayStep).2 undated
      exact .inr ⟨g, congrArg Outcome.ofExcept wide, (rests g).2 refused⟩
    · exact .inl wide

end Bucket

/-- A backend that holds no data and reports no failure. -/
def Backend.Vacant : Backend → Prop
  | document adapter _ => ∀ search, adapter.client.search search = .ok []
  | timeSeries adapter _ => ∀ command, ∃ results, adapter.client.query command = .ok results ∧
      ∀ result ∈ results, result.error = none ∧ result.series = []
  | relational _ store => ∀ table ∈ store.database.tables, table.rows = []

variable {request : Request} {bucket : Int64}

theorem PhysicalNames.refuses_ofRequest_iff {metrics : List String} (some : metrics ≠ [])
    (bucket : Int64) (dayStep : Nat) :
    (ofRequest metrics bucket.toInt dayStep).Refuses ↔ ¬ Bucket.Dated bucket := by
  apply Bucket.refuses_partition_iff
  intro g
  rw [Except.bind_ok_eq_map, Outcome.refuses_map_iff]
  exact Outcome.refuses_mapM_iff pair_eq some

theorem Document.refuses_read_iff {adapter : Adapter} {sent : List Search}
    (vacant : (Backend.document adapter sent).Vacant) (some : request.names ≠ []) :
    (adapter.read request bucket sent).1.Refuses ↔ ¬ Bucket.Dated bucket := by
  rw [← PhysicalNames.refuses_ofRequest_iff some bucket adapter.context.dayStep, Adapter.read]
  cases PhysicalNames.ofRequest request.names bucket.toInt adapter.context.dayStep with
  | error failure => exact Outcome.refuses_error_iff failure
  | ok names =>
    dsimp only
    rw [vacant]
    exact iff_of_false (Outcome.not_refuses_ok _) (Outcome.not_refuses_ok _)

theorem TimeSeries.read_of_vacant {adapter : Adapter} {sent : List String}
    (vacant : (Backend.timeSeries adapter sent).Vacant) :
    (adapter.read request bucket sent).1 = .ok [] := by
  rw [Adapter.read]
  dsimp only
  obtain ⟨results, answered, nothing⟩ := vacant (command adapter.database
    (request.names.map adapter.client.format) request.scope bucket)
  have each : results.mapM (readResult adapter.context (adapter.metric? request.names)) =
      .ok (results.map fun _ => ([] : List (String × ValueSet))) := by
    apply Except.mapM_eq_ok
    intro result mem
    obtain ⟨succeeded, none⟩ := nothing result mem
    rw [readResult, succeeded, none]
    rfl
  have none : (results.map fun _ => ([] : List (String × ValueSet))).flatten = [] := by simp
  rw [answered, Except.ok_bind, Adapter.readResults, each, Except.ok_bind, none]
  rfl

namespace Relational

theorem refuses_suffix_iff (adapter : Relational) (bucket : Int64) :
    (adapter.suffix bucket).Refuses ↔ ¬ Bucket.Dated bucket := by
  apply Bucket.refuses_partition_iff
  intro g
  rw [Except.bind_ok_eq_map, Outcome.refuses_map_iff]

/-- Without rows nothing is decoded, so all that can fail is a condition on a column. -/
theorem refused_of_readTables {context : Context} {database : Database} {tables : List String}
    (bare : ∀ table ∈ database.tables, table.rows = []) {error : Error}
    (h : readTables context database request bucket tables = .error error) :
    ∃ cause, error = .refused cause := by
  have failed {metric name : String} {own : Error}
      (failed : readTable context database request.scope bucket metric name = .error own) :
      ∃ cause, own = .refused cause := by
    rw [readTable] at failed
    split at failed
    · contradiction
    next table found =>
    split at failed
    · split at failed
      · next cause _ =>
        cases failed
        exact ⟨cause, rfl⟩
      · next rows selected =>
        have fewer := Table.sublist_of_select selected
        rw [bare table (List.mem_of_find?_eq_some found)] at fewer
        rw [List.sublist_nil.1 fewer] at failed
        contradiction
    · contradiction
  rw [readTables, Except.bind_ok_eq_map, Except.map_eq_error_iff, Except.mapM_eq_error_iff] at h
  obtain ⟨_, place, _, _, _, here⟩ := h
  exact failed here

theorem refuses_read_iff {adapter : Relational} {store : Store}
    (vacant : (Backend.relational adapter store).Vacant) (some : request.names ≠ []) :
    (adapter.read request bucket store).1.Refuses ↔ ¬ Bucket.Dated bucket := by
  have named : Outcome.Refuses (request.names.mapM fun name => adapter.tableName name bucket) ↔
      ¬ Bucket.Dated bucket := by
    rw [← adapter.refuses_suffix_iff bucket]
    exact Outcome.refuses_mapM_iff (fun name => tableName_eq adapter name bucket) some
  rw [← named, read]
  cases request.names.mapM fun name => adapter.tableName name bucket with
  | error failure => exact Outcome.refuses_error_iff failure
  | ok tables =>
    refine iff_of_false ?_ (Outcome.not_refuses_ok _)
    dsimp only
    rintro ⟨error, failed, refused⟩
    by_cases free : store.pool.Free
    · obtain ⟨_, -, ran⟩ := Store.withConnection_eq free fun database =>
        (Outcome.ofExcept (readTables adapter.context database request bucket tables), database)
      rw [ran, Outcome.ofExcept_eq_error_iff] at failed
      obtain ⟨own, failed, same⟩ := failed
      obtain ⟨cause, rfl⟩ := refused_of_readTables vacant failed
      cases same
      contradiction
    · rw [Store.withConnection_of_not_free free] at failed
      cases failed
      contradiction

end Relational

namespace Service

/-- What the service turns down over a backend that holds no data and reports no failure. -/
theorem refuses_iff {catalog : Catalog} {backend : Backend} (vacant : backend.Vacant)
    (known : knownNames catalog request.names ≠ []) (bucket : Int64) :
    (read catalog Backend.read request bucket backend).1.Refuses ↔
      match backend.engine with
      | .document | .relational => ¬ Bucket.Dated bucket
      | .timeSeries => ¬ Bucket.Wide bucket := by
  cases width : Bucket.granularity bucket.toInt with
  | error error =>
    have narrow := Bucket.not_wide_of_error width
    rw [read, width, Bucket.eq_of_granularity_error width]
    refine iff_of_true (Outcome.refuses_timeBucket _) ?_
    split <;> first | exact mt Bucket.wide_of_dated narrow | exact narrow
  | ok g =>
    rw [read_of_wide width, if_neg known]
    cases backend with
    | document adapter sent => exact Document.refuses_read_iff vacant known
    | timeSeries adapter sent =>
      rw [Backend.read, TimeSeries.read_of_vacant vacant]
      exact iff_of_false (Outcome.not_refuses_ok _) fun narrow => narrow ⟨g, width⟩
    | relational adapter store => exact Relational.refuses_read_iff vacant known

section Agreement

variable {catalog : Catalog} {document : Document.Adapter} {timeSeries : TimeSeries.Adapter}
  {relational : Relational} {searches : List Document.Search} {commands : List String}
  {store : Store}

/-- Over backends that hold no data and report no failure, a bucket is turned down by the document
adapter and by the relational adapter if it has no accepted width or its day is none of the
calendar, by the time-series adapter only if it has no accepted width. So all three agree on the
buckets that have an accepted width only if they have a day, and on no others. -/
theorem refusals_agree_iff (known : knownNames catalog request.names ≠ [])
    (noHits : (Backend.document document searches).Vacant)
    (noSeries : (Backend.timeSeries timeSeries commands).Vacant)
    (noRows : (Backend.relational relational store).Vacant) (bucket : Int64) :
    let refuses (backend : Backend) : Prop :=
      (read catalog Backend.read request bucket backend).1.Refuses
    (refuses (.document document searches) ↔ refuses (.relational relational store)) ∧
      (refuses (.document document searches) ↔ ¬ Bucket.Dated bucket) ∧
      (refuses (.timeSeries timeSeries commands) ↔ ¬ Bucket.Wide bucket) ∧
      ((refuses (.document document searches) ↔ refuses (.timeSeries timeSeries commands)) ↔
        (Bucket.Wide bucket → Bucket.Dated bucket)) := by
  intro refuses
  have documents : refuses (.document document searches) ↔ ¬ Bucket.Dated bucket :=
    refuses_iff noHits known bucket
  have series : refuses (.timeSeries timeSeries commands) ↔ ¬ Bucket.Wide bucket :=
    refuses_iff noSeries known bucket
  have rows : refuses (.relational relational store) ↔ ¬ Bucket.Dated bucket :=
    refuses_iff noRows known bucket
  refine ⟨documents.trans rows.symm, documents, series, ?_⟩
  rw [documents, series, not_iff_not]
  exact ⟨fun same => same.2, fun dated => ⟨Bucket.wide_of_dated, dated⟩⟩

end Agreement

/-- A minute of a leap day. -/
theorem refusals_agree_iff_leap_day :
    let catalog : Catalog := ⟨⟨[.ofKind "m" .sum]⟩, (Metadata.empty none).add (.ofKind "m" .sum)⟩
    let refuses (backend : Backend) : Prop :=
      (read catalog Backend.read ⟨["m"], .unrestricted⟩ 202402291530 backend).1.Refuses
    (refuses (.document ⟨⟨id, fun _ => .ok []⟩, .ofCatalog catalog, 10⟩ []) ↔
      refuses (.timeSeries ⟨⟨id, fun _ => .ok [⟨[], none⟩]⟩, .ofCatalog catalog, "db"⟩ [])) := by
  intro catalog refuses
  have known : knownNames catalog ["m"] ≠ [] := by decide
  have dated : Bucket.Dated 202402291530 := ⟨⟨2024, 2, 29⟩, by decide, by rfl⟩
  exact (@refusals_agree_iff ⟨["m"], .unrestricted⟩ catalog
    ⟨⟨id, fun _ => .ok []⟩, .ofCatalog catalog, 10⟩
    ⟨⟨id, fun _ => .ok [⟨[], none⟩]⟩, .ofCatalog catalog, "db"⟩ ⟨.ofCatalog catalog, ""⟩ [] []
    (.ofSize 1) known (fun _ => rfl) (fun _ => ⟨_, rfl, by simp⟩) nofun 202402291530).2.2.2.2
      fun _ => dated

/-- On the thirtieth of a February the storages disagree: the bucket has the width of a day, and a
time-series database is asked for it and holds nothing, but there is no partition to ask for. -/
theorem refusals_differ :
    let catalog : Catalog := ⟨⟨[.ofKind "m" .sum]⟩, (Metadata.empty none).add (.ofKind "m" .sum)⟩
    let document : Backend := .document ⟨⟨id, fun _ => .ok []⟩, .ofCatalog catalog, 10⟩ []
    let timeSeries : Backend := .timeSeries ⟨⟨id, fun _ => .ok []⟩, .ofCatalog catalog, "db"⟩ []
    let relational : Backend := .relational ⟨.ofCatalog catalog, ""⟩ (.ofSize 1)
    let outcome (backend : Backend) : Outcome (List Result) :=
      (read catalog Backend.read ⟨["m"], .unrestricted⟩ 20240230 backend).1
    knownNames catalog ["m"] ≠ [] ∧
      (document.Vacant ∧ timeSeries.Vacant ∧ relational.Vacant) ∧
      outcome document = .error (.error (.timeBucket 20240230)) ∧
      outcome relational = .error (.error (.timeBucket 20240230)) ∧
      outcome timeSeries = .ok [] ∧
      ¬ ((outcome document).Refuses ↔ (outcome timeSeries).Refuses) := by
  intro catalog document timeSeries relational outcome
  have refused : outcome document = .error (.error (.timeBucket 20240230)) := by rfl
  have answered : outcome timeSeries = .ok [] := by rfl
  refine ⟨by decide, ⟨fun _ => rfl, fun _ => ⟨[], rfl, nofun⟩, nofun⟩, refused, by rfl, answered,
    ?_⟩
  rw [refused, answered]
  exact fun same => Outcome.not_refuses_ok _ (same.1 (Outcome.refuses_timeBucket _))

end Service

end Rollup
