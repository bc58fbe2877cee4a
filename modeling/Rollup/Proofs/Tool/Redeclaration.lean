import Rollup.Proofs.Catalog.Alike
import Rollup.Proofs.Catalog.Registration
import Rollup.Proofs.Tool.Seeds

/-!
Models that are declared more than once. The catalog of entries whose kinds agree knows of each name
what the last entry says (`exists_catalogOf`), but the tool creates the tables of a metric after its
first entry. Main statement: `redeclared_models_replace`, the last entries alone give the same
outcome, unless a record is written to a table that the first one gives other columns
(`redeclared_model_keeps_table`).
-/
namespace Rollup

namespace Tool

/-- The entries without those that a later entry of the same name replaces. -/
def latestEntries : List Entry → List Entry
  | [] => []
  | entry :: rest =>
    if rest.any (·.name = entry.name) then latestEntries rest else entry :: latestEntries rest

/-- From the end an entry is found before those that it replaces. -/
theorem find?_reverse_cons_of_replaced {entry : Entry} {rest : List Entry}
    (replaced : rest.any (·.name = entry.name) = true) (name : String) :
    (entry :: rest).reverse.find? (·.name = name) = rest.reverse.find? (·.name = name) := by
  rw [List.reverse_cons, List.find?_append]
  by_cases same : entry.name = name
  · have found : (rest.reverse.find? (·.name = name)).isSome := by
      rw [List.find?_isSome, ← same]
      simpa using replaced
    rw [Option.or_of_isSome found]
  · simp [same]

theorem find?_reverse_latestEntries (entries : List Entry) (name : String) :
    (latestEntries entries).reverse.find? (·.name = name) =
      entries.reverse.find? (·.name = name) := by
  induction entries with
  | nil => rfl
  | cons entry rest ih =>
    rw [latestEntries]
    split
    · next replaced => rw [ih, find?_reverse_cons_of_replaced replaced]
    · rw [List.reverse_cons, List.reverse_cons, List.find?_append, List.find?_append, ih]

theorem find?_latestEntries (entries : List Entry) (name : String) :
    (latestEntries entries).find? (·.name = name) = entries.reverse.find? (·.name = name) := by
  induction entries with
  | nil => rfl
  | cons entry rest ih =>
    rw [latestEntries]
    split
    · next replaced => rw [ih, find?_reverse_cons_of_replaced replaced]
    · next kept =>
      rw [List.find?_cons, List.reverse_cons, List.find?_append, ih]
      by_cases same : entry.name = name
      · have none : rest.reverse.find? (·.name = name) = none := by
          simpa [same] using kept
        simp [same, none]
      · simp [same]

theorem latestEntries_sublist (entries : List Entry) : (latestEntries entries).Sublist entries := by
  induction entries with
  | nil => exact .slnil
  | cons entry rest ih =>
    rw [latestEntries]
    split
    · exact ih.cons entry
    · exact ih.cons_cons entry

def KindsAgree (entries : List Entry) : Prop :=
  ∀ entry ∈ entries, ∀ other ∈ entries, entry.name = other.name → entry.kind = other.kind

instance (entries : List Entry) : Decidable (KindsAgree entries) :=
  inferInstanceAs (Decidable (∀ entry ∈ entries, ∀ other ∈ entries, _ → _))

def Entry.call (entry : Entry) : Registry.Call :=
  .declared entry.name entry.kind

theorem KindsAgree.conflictFree {entries : List Entry} (agree : KindsAgree entries) :
    Registry.ConflictFree (entries.map Entry.call) := by
  intro a memA b memB same
  obtain ⟨entry, listed, rfl⟩ := List.mem_map.1 memA
  obtain ⟨other, otherListed, rfl⟩ := List.mem_map.1 memB
  have names : entry.name = other.name := same
  change Descriptor.ofKind entry.name entry.kind = .ofKind other.name other.kind
  rw [agree entry listed other otherListed names, names]

theorem Entry.model_name (entry : Entry) : entry.model.name = entry.name := by
  rw [model]
  split <;> rfl

theorem find?_models (entries : List Entry) (name : String) :
    (entries.map Entry.model).find? (·.name = name) =
      (entries.find? (·.name = name)).map Entry.model := by
  rw [List.find?_map]
  simp only [Function.comp_def, Entry.model_name]

/-- The catalog of entries whose kinds agree: of each name it knows the kind, and the model of the
last entry. -/
theorem exists_catalogOf {entries : List Entry} (agree : KindsAgree entries) (settings : Settings) :
    ∃ catalog, catalogOf settings entries = .ok catalog ∧
      catalog.metadata.overrides = settings.overrides? ∧
      (∀ name, catalog.registry.find? name =
        (entries.reverse.find? (·.name = name)).map fun entry => .ofKind name entry.kind) ∧
      ∀ name, catalog.metadata.models.lookup name =
        (entries.reverse.find? (·.name = name)).map Entry.model := by
  have free := agree.conflictFree
  have registered : entries.foldlM (fun registry entry =>
      registry.registerKind entry.name entry.kind) Registry.empty =
        .ok (Registry.ofCalls (entries.map Entry.call)) := by
    rw [← Registry.foldlM_run free, List.foldlM_map]
    rfl
  have built : catalogOf settings entries = .ok ⟨Registry.ofCalls (entries.map Entry.call),
      (entries.map Entry.model).foldl Metadata.add (.empty settings.overrides?)⟩ := by
    rw [catalogOf, Catalog.build, List.foldlM_map]
    exact Except.bind_eq_ok_iff.2 ⟨_, registered, rfl⟩
  refine ⟨_, built, ?_, fun name => ?_, fun name => ?_⟩
  · exact Metadata.overrides_foldl_add ..
  · cases found : entries.reverse.find? (·.name = name) with
    | none =>
      rw [Registry.find?_ofCalls, Option.map_none, List.find?_eq_none, List.map_map]
      refine List.forall_mem_map.2 fun entry listed => ?_
      exact List.find?_eq_none.1 found entry (List.mem_reverse.2 listed)
    | some last =>
      have named : last.name = name := by simpa using List.find?_some found
      have listed := List.mem_reverse.1 (List.mem_of_find?_eq_some found)
      refine (Registry.find?_ofCalls_eq_some_iff free).2 ⟨?_, rfl⟩
      rw [← named]
      exact List.mem_map_of_mem (List.mem_map_of_mem listed)
  · rw [Metadata.lookup_foldl_add, ← List.map_reverse, find?_models]
    exact Option.or_none

/-- Entries that are replaced leave no trace in the catalog but the order in which it is kept. -/
theorem exists_alike_catalogOf {entries : List Entry} (agree : KindsAgree entries)
    (settings : Settings) :
    ∃ catalog latest, catalogOf settings entries = .ok catalog ∧
      catalogOf settings (latestEntries entries) = .ok latest ∧ catalog.Alike latest := by
  have agreeLatest : KindsAgree (latestEntries entries) := fun entry mem other otherMem =>
    agree entry ((latestEntries_sublist entries).subset mem) other
      ((latestEntries_sublist entries).subset otherMem)
  obtain ⟨catalog, built, overrides, kinds, models⟩ := exists_catalogOf agree settings
  obtain ⟨latest, builtLatest, sameOverrides, sameKinds, sameModels⟩ :=
    exists_catalogOf agreeLatest settings
  refine ⟨catalog, latest, built, builtLatest, fun name => ?_, fun name => ?_, ?_⟩
  · rw [kinds, sameKinds, find?_reverse_latestEntries]
  · rw [models, sameModels, find?_reverse_latestEntries]
  · rw [overrides, sameOverrides]

/-- Answers a request over the catalog of some entries, with tables created after others. -/
def answerWith (settings : Settings) (entries tables : List Entry)
    (seeds : Except Stop (List Seed)) (request : Request) (bucket : Int64) :
    Except Stop (List Result) := do
  let catalog ← lift (catalogOf settings entries)
  let backend ← lift (Backend.ofSettings settings (.ofCatalog catalog) ⟨none, none, none⟩)
  let seeds ← seeds
  let backend ← sowAll (tables.map Entry.model) settings.ranks seeds backend
  lift (Service.read catalog Backend.read request bucket backend).1

theorem answer_eq_answerWith (settings : Settings) (entries : List Entry) :
    answer settings entries = answerWith settings entries entries := rfl

/-- Tables of a metric that are created after either list get the same columns. -/
def TablesAgree (tables others : List Entry) (metric : String) : Prop :=
  (tables.find? (·.name = metric)).map (·.model.typedColumns) =
    (others.find? (·.name = metric)).map (·.model.typedColumns)

instance (tables others : List Entry) (metric : String) :
    Decidable (TablesAgree tables others metric) :=
  inferInstanceAs (Decidable (_ = _))

theorem prepare_congr {adapter other : Relational} (alike : adapter.Alike other)
    {tables others : List Entry} {metric : String} (agree : TablesAgree tables others metric)
    (sowing : Sowing) (bucket : Int64) :
    prepare adapter (tables.map Entry.model) sowing metric bucket =
      prepare other (others.map Entry.model) sowing metric bucket := by
  rw [prepare, prepare, find?_models, find?_models]
  rw [TablesAgree] at agree
  cases found : tables.find? (·.name = metric) <;> cases foundOther : others.find? (·.name = metric)
  · rfl
  · simp [found, foundOther] at agree
  · simp [found, foundOther] at agree
  · next entry declared =>
    have columns : entry.model.typedColumns = declared.model.typedColumns := by
      simpa [found, foundOther] using agree
    have name : entry.model.name = declared.model.name := by
      have own : entry.name = metric := by simpa using List.find?_some found
      have otherOwn : declared.name = metric := by simpa using List.find?_some foundOther
      rw [Entry.model_name, Entry.model_name, own, otherOwn]
    simp only [Option.map_some, alike.createTable name columns]

theorem sow_alike {adapter other : Relational} (alike : adapter.Alike other)
    {tables others : List Entry} {seed : Seed} (agree : TablesAgree tables others seed.metric)
    (ranks : List Int32) (sowing : Sowing) :
    sow adapter (tables.map Entry.model) ranks sowing seed =
      sow other (others.map Entry.model) ranks sowing seed := by
  rw [sow, sow, prepare_congr alike agree, alike.insert]

theorem foldlM_sow_alike {adapter other : Relational} (alike : adapter.Alike other)
    {tables others : List Entry} {seeds : List Seed}
    (agree : ∀ seed ∈ seeds, TablesAgree tables others seed.metric) (ranks : List Int32)
    (sowing : Sowing) :
    seeds.foldlM (sow adapter (tables.map Entry.model) ranks) sowing =
      seeds.foldlM (sow other (others.map Entry.model) ranks) sowing := by
  apply Except.foldlM_congr
  exact List.forall₂_same.2 fun seed mem sowing => sow_alike alike (agree seed mem) ranks sowing

theorem fst_read_alike {catalog latest : Catalog} (alike : catalog.Alike latest)
    {adapter other : Relational} (adapters : adapter.Alike other) (request : Request)
    (bucket : Int64) (store : Store) :
    (Service.read catalog Backend.read request bucket (.relational adapter store)).1 =
      (Service.read latest Backend.read request bucket (.relational other store)).1 := by
  simp only [Service.read, Service.knownNames, alike.knows, Backend.read, adapters.read]
  split
  · rfl
  · split <;> rfl

/-- Catalogs that are alike and tables that get the same columns cannot be told apart by answers. -/
theorem answerWith_alike {settings : Settings} {entries others tables otherTables : List Entry}
    {catalog other : Catalog} (built : catalogOf settings entries = .ok catalog)
    (builtOther : catalogOf settings others = .ok other) (alike : catalog.Alike other)
    {seeds : Except Stop (List Seed)} (agree : ∀ given, seeds = .ok given → ∀ seed ∈ given,
      TablesAgree tables otherTables seed.metric) (request : Request) (bucket : Int64) :
    answerWith settings entries tables seeds request bucket =
      answerWith settings others otherTables seeds request bucket := by
  obtain ⟨opened, -, chosen⟩ := exists_opened settings
  have adapters : Relational.Alike
      ⟨Backend.contextOf settings (.ofCatalog catalog), settings.space⟩
      ⟨Backend.contextOf settings (.ofCatalog other), settings.space⟩ :=
    ⟨⟨alike, rfl, rfl⟩, rfl⟩
  simp only [answerWith, built, builtOther, chosen]
  cases opened with
  | error failure => rfl
  | ok store =>
    cases seeds with
    | error stop => rfl
    | ok given =>
      have sown := foldlM_sow_alike adapters (agree given rfl) settings.ranks ⟨[], store⟩
      change ((given.foldlM (sow _ _ _) _).map _ >>= _) =
        ((given.foldlM (sow _ _ _) _).map _ >>= _)
      rw [sown]
      cases given.foldlM (sow _ (otherTables.map Entry.model) settings.ranks) ⟨[], store⟩ with
      | error stop => rfl
      | ok sowing =>
        exact congrArg lift (fst_read_alike alike adapters request bucket sowing.store)

theorem answer_eq_answerWith_latestEntries {entries tables : List Entry}
    (kinds : KindsAgree entries) (settings : Settings) {seeds : Except Stop (List Seed)}
    (agree : ∀ given, seeds = .ok given → ∀ seed ∈ given, TablesAgree entries tables seed.metric)
    (request : Request) (bucket : Int64) :
    answer settings entries seeds request bucket =
      answerWith settings (latestEntries entries) tables seeds request bucket := by
  obtain ⟨catalog, latest, built, builtLatest, alike⟩ := exists_alike_catalogOf kinds settings
  rw [answer_eq_answerWith]
  exact answerWith_alike built builtLatest alike agree request bucket

/-- A model that is declared again replaces the former one in the catalog, while tables are created
after the first declaration. So the outcome is that of the last declarations alone if the tables of
all seeds get the same columns after the first and the last one: a declaration may store columns
under other names, but not add, drop, move or retype one. -/
theorem redeclared_models_replace {entries : List Entry} (kinds : KindsAgree entries) :
    (∀ settings seeds request bucket,
      answer settings entries seeds request bucket =
        answerWith settings (latestEntries entries) entries seeds request bucket) ∧
    (∀ settings seeds request bucket,
      (∀ given, seeds = .ok given → ∀ seed ∈ given,
        TablesAgree entries entries.reverse seed.metric) →
      answer settings entries seeds request bucket =
        answer settings (latestEntries entries) seeds request bucket) ∧
    ∀ files others environment arguments,
      Settings.load files environment arguments.options =
        Settings.load others environment arguments.options →
      readValues files arguments.models Entry.shape Entry.ofJson = .ok entries →
      readValues others arguments.models Entry.shape Entry.ofJson = .ok (latestEntries entries) →
      seedsOf files arguments = seedsOf others arguments →
      (∀ given, seedsOf files arguments = .ok given → ∀ seed ∈ given,
        TablesAgree entries entries.reverse seed.metric) →
      query files environment arguments = query others environment arguments := by
  have replaced (settings : Settings) (seeds : Except Stop (List Seed)) (request : Request)
      (bucket : Int64) (agree : ∀ given, seeds = .ok given → ∀ seed ∈ given,
        TablesAgree entries entries.reverse seed.metric) :
      answer settings entries seeds request bucket =
        answer settings (latestEntries entries) seeds request bucket := by
    rw [answer_eq_answerWith settings (latestEntries entries)]
    refine answer_eq_answerWith_latestEntries kinds settings (fun given eq seed mem => ?_) ..
    rw [TablesAgree, find?_latestEntries]
    exact agree given eq seed mem
  refine ⟨fun settings seeds request bucket => ?_, replaced, ?_⟩
  · exact answer_eq_answerWith_latestEntries kinds settings (fun _ _ _ _ => rfl) request bucket
  · intro files others environment arguments settings models latest seeds agree
    simp only [query_eq, ← settings, models, latest, ← seeds, Except.ok_bind]
    simp only [replaced _ _ _ _ agree]

/-- A metric whose value is first declared to be stored as its worth and then under its own name is
answered as if it had been declared once, and so is one that is first declared without columns, as
long as nothing is written to it. -/
theorem redeclared_models_replace_renamed :
    let settings : Settings := .standard "duckdb" ":memory:"
    let columns : List Column := [⟨"entity_id", "entity_id", .key⟩,
      ⟨"service_id", "service_id", .key⟩, ⟨"time_bucket", "time_bucket", .key⟩,
      ⟨"total", "total", .storageOnly⟩, ⟨"value", "worth", .value⟩]
    let entries : List Entry := [⟨"m", .cpm, some columns⟩, ⟨"m", .cpm, none⟩]
    let seeds : List Seed := [⟨"m", ⟨⟨"a", none, 20240101⟩, .cpm ⟨10080, 0⟩⟩⟩]
    let files (models : String) : Settings.Files := fun path =>
      if path = "models" then some models else none
    let first := files ("[\x7b\"name\": \"m\", \"kind\": \"Cpm\", \"columns\": []\x7d, " ++
      "\x7b\"name\": \"m\", \"kind\": \"Cpm\"\x7d]")
    let last := files "[\x7b\"name\": \"m\", \"kind\": \"Cpm\"\x7d]"
    let arguments : Arguments := ⟨⟨none, none, none, none, none⟩, "models", none, ["m"],
      .unrestricted, 20240101⟩
    answer settings entries (.ok seeds) ⟨["m"], .unrestricted⟩ 20240101 =
        answer settings [⟨"m", .cpm, none⟩] (.ok seeds) ⟨["m"], .unrestricted⟩ 20240101 ∧
      answer settings entries (.ok seeds) ⟨["m"], .unrestricted⟩ 20240101 =
        .ok [⟨"20240101_a", "", "20240101", [⟨"m", [⟨"value", 7⟩]⟩]⟩] ∧
      query first [] arguments = query last [] arguments := by
  intro settings columns entries seeds files first last arguments
  have kinds : KindsAgree entries := by decide +kernel
  have tables : TablesAgree entries entries.reverse "m" := by decide +kernel
  refine ⟨?_, by decide +kernel, ?_⟩
  · apply (redeclared_models_replace kinds).2.1
    intro given eq seed mem
    cases eq
    rw [List.mem_singleton.1 mem]
    exact tables
  · let bare : List Entry := [⟨"m", .cpm, some []⟩, ⟨"m", .cpm, none⟩]
    have kinds : KindsAgree bare := by decide +kernel
    apply (redeclared_models_replace kinds).2.2
    · decide +kernel
    · decide +kernel
    · decide +kernel
    · rfl
    · intro given eq seed mem
      cases eq
      contradiction

/-- The table is created after a declaration without a total, so the record that has one does not
fit in, although the last declaration has a place for it. -/
theorem redeclared_model_keeps_table :
    let settings : Settings := .standard "duckdb" ":memory:"
    let columns : List Column := [⟨"entity_id", "entity_id", .key⟩,
      ⟨"service_id", "service_id", .key⟩, ⟨"time_bucket", "time_bucket", .key⟩,
      ⟨"value", "value", .value⟩]
    let entries : List Entry := [⟨"m", .cpm, some columns⟩, ⟨"m", .cpm, none⟩]
    let seeds : List Seed := [⟨"m", ⟨⟨"a", none, 20240101⟩, .cpm ⟨10080, 0⟩⟩⟩]
    KindsAgree entries ∧
      answer settings entries (.ok seeds) ⟨["m"], .unrestricted⟩ 20240101 =
        .error (.trouble (.error (.refused (.unknownColumn "total")))) ∧
      answer settings (latestEntries entries) (.ok seeds) ⟨["m"], .unrestricted⟩ 20240101 =
        .ok [⟨"20240101_a", "", "20240101", [⟨"m", [⟨"value", 7⟩]⟩]⟩] := by
  decide +kernel

end Tool

end Rollup
