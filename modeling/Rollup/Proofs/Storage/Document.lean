import Rollup.Proofs.Bucket.PhysicalNames
import Rollup.Proofs.Query.Decoding
import Rollup.Proofs.Query.Grouping
import Rollup.Storage.Document

/-!
Answers made from the hits of a search. Main statement: `read_groups_hits`, a query over a document
store gives every hit that has an id to the result of that id, under the one requested metric whose
index the hit lies in, or else fails for the first such hit that lies in no requested index or does
not decode.
-/
namespace Rollup.Document

namespace Adapter

/-- A metric is stored in an index at a bucket. -/
def Stores (adapter : Adapter) (bucket : Int64) (metric index : String) : Prop :=
  ∃ physical, PhysicalNames.Names adapter.context.dayStep bucket.toInt metric physical ∧
    adapter.client.format physical = index

def searchFor (adapter : Adapter) (request : Request) (bucket : Int64) (names : PhysicalNames) :
    Search :=
  ⟨names.physical.map adapter.client.format, body adapter.maxHits request.scope bucket⟩

end Adapter

def identified (hits : List Hit) : List Hit :=
  hits.filter (·.id ≠ "")

def readIdentified (context : Context) (metric? : String → Option String) (hit : Hit) :
    Except Error (String × ValueSet) :=
  match metric? hit.index with
  | none => .error (.unrequestedIndex hit.index)
  | some metric => (Decoder.decode context metric (.ofFields hit.source)).map (hit.id, ·)

theorem readHits_eq (context : Context) (metric? : String → Option String) (request : Request)
    (bucket : Int64) (hits : List Hit) : readHits context metric? request bucket hits =
      ((identified hits).mapM (readIdentified context metric?)).map
        (Result.collect request.scope bucket) := by
  have skipped : (hits.mapM (readHit context metric?)).map (List.filterMap id) =
      (identified hits).mapM (readIdentified context metric?) := by
    refine Except.mapM_skipping (fun hit noId => ?_) (fun hit hasId => ?_) hits
    · exact if_pos (by simpa using noId)
    · rw [readHit, if_neg (by simpa using hasId), readIdentified]
      cases metric? hit.index with
      | none => rfl
      | some metric =>
        dsimp only
        cases Decoder.decode context metric (.ofFields hit.source) <;> rfl
  rw [readHits, ← skipped]
  cases hits.mapM (readHit context metric?) <;> rfl

variable {adapter : Adapter} {request : Request} {bucket : Int64} {names : PhysicalNames}
  {hits : List Hit}

theorem read_eq
    (derived : PhysicalNames.ofRequest request.names bucket.toInt adapter.context.dayStep =
      .ok names)
    (found : adapter.client.search (adapter.searchFor request bucket names) = .ok hits)
    (sent : List Search) : (adapter.read request bucket sent).1 = .ofExcept
      (readHits adapter.context (names.metric? adapter.client.format) request bucket hits) := by
  rw [Adapter.searchFor] at found
  rw [Adapter.read, derived]
  dsimp only
  rw [found, Except.ok_bind]

theorem stores_iff {tail : String} (named : ∀ metric ∈ request.names, ∀ physical,
      PhysicalNames.Names adapter.context.dayStep bucket.toInt metric physical ↔
        metric ++ tail = physical) {metric index : String} (mem : metric ∈ request.names) :
    adapter.Stores bucket metric index ↔ adapter.client.format (metric ++ tail) = index := by
  simp only [Adapter.Stores, named metric mem, exists_eq_left']

/-- A hit holds a value set: it lies in the index of a requested metric and decodes as one. -/
def Holds (adapter : Adapter) (request : Request) (bucket : Int64) (hit : Hit) (set : ValueSet) :
    Prop :=
  ∃ metric ∈ request.names, adapter.Stores bucket metric hit.index ∧
    Decoder.decode adapter.context metric (.ofFields hit.source) = .ok set

/-- Why a hit holds no value set. -/
inductive Offends (adapter : Adapter) (request : Request) (bucket : Int64) (hit : Hit) :
    Error → Prop
  | unrequested : (∀ metric ∈ request.names, ¬ adapter.Stores bucket metric hit.index) →
    Offends adapter request bucket hit (.unrequestedIndex hit.index)
  | undecodable {metric : String} {error : Error} : metric ∈ request.names →
    adapter.Stores bucket metric hit.index →
    Decoder.decode adapter.context metric (.ofFields hit.source) = .error error →
    Offends adapter request bucket hit error

/-- The results that hits and their value sets make. -/
structure Groups (adapter : Adapter) (request : Request) (bucket : Int64)
    (entries : List (Hit × ValueSet)) (results : List Result) : Prop where
  ids : results.map (·.id) = (entries.map (·.1.id)).eraseDups
  distinct : (results.map (·.id)).Nodup
  sets : ∀ result ∈ results, result.sets = (entries.filter (·.1.id = result.id)).map (·.2)
  shared : (results.flatMap (·.sets)).Perm (entries.map (·.2))
  labels : ∀ entry ∈ entries, ∀ metric,
    metric ∈ request.names ∧ adapter.Stores bucket metric entry.1.index ↔ metric = entry.2.label
  scope : ∀ result ∈ results,
    result.entity = request.scope.id ∧ result.bucket = Numeral.render bucket.toInt

section Prefixed

variable {lead : String} (spelled : ∀ name, adapter.client.format name = lead ++ name)
  (derived : PhysicalNames.ofRequest request.names bucket.toInt adapter.context.dayStep =
    .ok names)

include spelled derived

/-- Behind a namespace no two requested metrics share an index. -/
theorem metric?_eq_some_iff {metric index : String} :
    names.metric? adapter.client.format index = some metric ↔
      metric ∈ request.names ∧ adapter.Stores bucket metric index := by
  obtain ⟨tail, listed, named⟩ := PhysicalNames.ofRequest_eq_ok derived
  have apart (a b : String) (same : adapter.client.format a = adapter.client.format b) : a = b := by
    rwa [spelled, spelled, String.append_right_inj] at same
  rw [PhysicalNames.metric?_eq_some_iff listed apart]
  constructor
  · rintro ⟨mem, eq⟩
    exact ⟨mem, (stores_iff named mem).2 eq⟩
  · rintro ⟨mem, stored⟩
    exact ⟨mem, (stores_iff named mem).1 stored⟩

theorem readIdentified_eq_ok_iff {hit : Hit} {entry : String × ValueSet} :
    readIdentified adapter.context (names.metric? adapter.client.format) hit = .ok entry ↔
      entry.1 = hit.id ∧ Holds adapter request bucket hit entry.2 := by
  have behind {metric : String} := @metric?_eq_some_iff _ _ _ _ _ spelled derived metric hit.index
  rw [readIdentified]
  constructor
  · intro h
    cases stored : names.metric? adapter.client.format hit.index with
    | none =>
      rw [stored] at h
      contradiction
    | some metric =>
      rw [stored] at h
      obtain ⟨set, decoded, rfl⟩ := Except.map_eq_ok_iff.1 h
      exact ⟨rfl, metric, (behind.1 stored).1, (behind.1 stored).2, decoded⟩
  · rintro ⟨same, metric, mem, stored, decoded⟩
    rw [behind.2 ⟨mem, stored⟩]
    exact Except.map_eq_ok_iff.2 ⟨entry.2, decoded, by rw [← same]⟩

theorem readIdentified_eq_error_iff {hit : Hit} {error : Error} :
    readIdentified adapter.context (names.metric? adapter.client.format) hit = .error error ↔
      Offends adapter request bucket hit error := by
  have behind {metric : String} := @metric?_eq_some_iff _ _ _ _ _ spelled derived metric hit.index
  rw [readIdentified]
  constructor
  · intro h
    cases stored : names.metric? adapter.client.format hit.index with
    | none =>
      rw [stored] at h
      cases h
      refine .unrequested fun metric mem elsewhere => ?_
      rw [behind.2 ⟨mem, elsewhere⟩] at stored
      contradiction
    | some metric =>
      rw [stored] at h
      exact .undecodable (behind.1 stored).1 (behind.1 stored).2 (Except.map_eq_error_iff.1 h)
  · intro h
    cases h with
    | unrequested nowhere =>
      cases stored : names.metric? adapter.client.format hit.index with
      | none => rfl
      | some metric => exact absurd (behind.1 stored).2 (nowhere metric (behind.1 stored).1)
    | undecodable mem stored failed =>
      rw [behind.2 ⟨mem, stored⟩]
      exact Except.map_eq_error_iff.2 failed

theorem Holds.label_iff {hit : Hit} {set : ValueSet} (h : Holds adapter request bucket hit set)
    (metric : String) :
    metric ∈ request.names ∧ adapter.Stores bucket metric hit.index ↔ metric = set.label := by
  obtain ⟨own, mem, stored, decoded⟩ := h
  rw [Decoder.label_of_decode decoded]
  constructor
  · intro other
    have here := (metric?_eq_some_iff spelled derived).2 ⟨mem, stored⟩
    have there := (metric?_eq_some_iff spelled derived).2 other
    exact Option.some.inj (there.symm.trans here)
  · rintro rfl
    exact ⟨mem, stored⟩

theorem groups_collect {entries : List (Hit × ValueSet)}
    (holds : ∀ entry ∈ entries, Holds adapter request bucket entry.1 entry.2) :
    Groups adapter request bucket entries
      (Result.collect request.scope bucket (entries.map fun entry => (entry.1.id, entry.2))) := by
  have setsOf (id : String) :
      Result.setsOf (entries.map fun entry => (entry.1.id, entry.2)) id =
        (entries.filter (·.1.id = id)).map (·.2) := by
    rw [Result.setsOf_eq_map_filter, List.filter_map, List.map_map]
    rfl
  have idsOf : Result.idsOf (entries.map fun entry => (entry.1.id, entry.2)) =
      (entries.map (·.1.id)).eraseDups := by
    rw [Result.idsOf, List.map_map]
    rfl
  rw [Result.collect_eq]
  refine ⟨?_, ?_, ?_, ?_, fun entry mem => (holds entry mem).label_iff spelled derived, ?_⟩
  · rw [List.map_map, idsOf]
    exact List.map_id _
  · rw [List.map_map]
    exact (List.map_id _).symm ▸ Result.nodup_idsOf _
  · intro result mem
    obtain ⟨id, -, rfl⟩ := List.mem_map.1 mem
    exact setsOf id
  · rw [List.flatMap_map]
    refine (Result.flatMap_setsOf_perm (Result.nodup_idsOf _) fun entry mem => ?_).trans ?_
    · exact List.mem_eraseDups.2 (List.mem_map_of_mem mem)
    · rw [List.map_map]
      exact .refl _
  · intro result mem
    obtain ⟨id, -, rfl⟩ := List.mem_map.1 mem
    exact ⟨rfl, rfl⟩

end Prefixed

theorem exists_entries {hits : List Hit} {found : List (String × ValueSet)}
    (h : List.Forall₂ (fun hit entry => entry.1 = hit.id ∧
      Holds adapter request bucket hit entry.2) hits found) :
    ∃ entries : List (Hit × ValueSet), entries.map (·.1) = hits ∧
      entries.map (fun entry => (entry.1.id, entry.2)) = found ∧
      ∀ entry ∈ entries, Holds adapter request bucket entry.1 entry.2 := by
  induction h with
  | nil => exact ⟨[], rfl, rfl, nofun⟩
  | @cons hit entry _ _ here _ ih =>
    obtain ⟨entries, rfl, rfl, holds⟩ := ih
    obtain ⟨id, set⟩ := entry
    obtain ⟨rfl, held⟩ := here
    exact ⟨(hit, set) :: entries, rfl, rfl, List.forall_mem_cons.2 ⟨held, holds⟩⟩

/-- Over a document store that keeps its indices behind a namespace, a query succeeds exactly if
every hit with an id holds a value set. Its results then group these sets by id. Otherwise it fails
as the first hit that holds none. -/
theorem read_groups_hits {lead : String}
    (spelled : ∀ name, adapter.client.format name = lead ++ name)
    (derived : PhysicalNames.ofRequest request.names bucket.toInt adapter.context.dayStep =
      .ok names)
    (found : adapter.client.search (adapter.searchFor request bucket names) = .ok hits)
    (sent : List Search) :
    ((∃ results, (adapter.read request bucket sent).1 = .ok results) ↔
      ∀ hit ∈ identified hits, ∃ set, Holds adapter request bucket hit set) ∧
    (∀ results, (adapter.read request bucket sent).1 = .ok results → ∃ entries,
      entries.map (·.1) = identified hits ∧
      (∀ entry ∈ entries, Holds adapter request bucket entry.1 entry.2) ∧
      Groups adapter request bucket entries results) ∧
    ∀ failure, (adapter.read request bucket sent).1 = .error failure →
      ∃ before hit after error, identified hits = before ++ hit :: after ∧
        (∀ other ∈ before, ∃ set, Holds adapter request bucket other set) ∧
        Offends adapter request bucket hit error ∧ failure = .error error := by
  have ok {hit : Hit} {entry : String × ValueSet} :=
    @readIdentified_eq_ok_iff _ _ _ _ _ spelled derived hit entry
  have error {hit : Hit} {own : Error} :=
    @readIdentified_eq_error_iff _ _ _ _ _ spelled derived hit own
  rw [read_eq derived found, readHits_eq]
  have groups (results : List Result) (h : Outcome.ofExcept (((identified hits).mapM
      (readIdentified adapter.context (names.metric? adapter.client.format))).map
        (Result.collect request.scope bucket)) = .ok results) : ∃ entries,
      entries.map (·.1) = identified hits ∧
      (∀ entry ∈ entries, Holds adapter request bucket entry.1 entry.2) ∧
      Groups adapter request bucket entries results := by
    obtain ⟨found, read, rfl⟩ := Except.map_eq_ok_iff.1 (Outcome.ofExcept_eq_ok_iff.1 h)
    have read := (Except.mapM_eq_ok_iff.1 read).imp fun _ _ => ok.1
    obtain ⟨entries, owners, rfl, holds⟩ := exists_entries read
    exact ⟨entries, owners, holds, groups_collect spelled derived holds⟩
  refine ⟨⟨?_, fun all => ?_⟩, groups, ?_⟩
  · rintro ⟨results, h⟩ hit mem
    obtain ⟨entries, owners, holds, -⟩ := groups results h
    obtain ⟨entry, listed, rfl⟩ := List.mem_map.1 (owners ▸ mem)
    exact ⟨entry.2, holds entry listed⟩
  · cases read : (identified hits).mapM
        (readIdentified adapter.context (names.metric? adapter.client.format)) with
    | ok entries => exact ⟨_, rfl⟩
    | error own =>
      obtain ⟨before, hit, after, eq, -, failed⟩ := Except.mapM_eq_error_iff.1 read
      obtain ⟨set, held⟩ := all hit (eq ▸ List.mem_append_right _ List.mem_cons_self)
      rw [(@ok hit (hit.id, set)).2 ⟨rfl, held⟩] at failed
      contradiction
  · intro failure h
    obtain ⟨own, read, rfl⟩ := Outcome.ofExcept_eq_error_iff.1 h
    obtain ⟨before, hit, after, eq, fine, failed⟩ :=
      Except.mapM_eq_error_iff.1 (Except.map_eq_error_iff.1 read)
    refine ⟨before, hit, after, own, eq, fun other mem => ?_, error.1 failed, rfl⟩
    obtain ⟨entry, read⟩ := fine other mem
    exact ⟨entry.2, (ok.1 read).2⟩

/-- Two hits under one id and one without an id, for a metric that is requested twice. -/
theorem read_groups_hits_repeated :
    let hits : List Hit := [⟨"sw_m_day-20240101", "7", [("value", .number (.integer 3))]⟩,
      ⟨"elsewhere", "", []⟩, ⟨"sw_m_day-20240101", "7", [("value", .number (.integer 4))]⟩]
    let catalog : Catalog := ⟨⟨[.ofKind "m" .sum]⟩, (Metadata.empty none).add (.ofKind "m" .sum)⟩
    let adapter : Adapter :=
      ⟨⟨fun name => "sw_" ++ name, fun _ => .ok hits⟩, .ofCatalog catalog, 10⟩
    ∃ entries, entries.map (·.1) = identified hits ∧
      Groups adapter ⟨["m", "m"], .unrestricted⟩ 20240101 entries
        [⟨"7", "", "20240101", [⟨"m", [⟨"value", 3⟩]⟩, ⟨"m", [⟨"value", 4⟩]⟩]⟩] := by
  intro hits catalog adapter
  obtain ⟨entries, owners, -, groups⟩ :=
    (@read_groups_hits adapter ⟨["m", "m"], .unrestricted⟩ 20240101
      ⟨.day, 20240101, [("m", "m_day-20240101"), ("m", "m_day-20240101")]⟩ hits "sw_"
      (fun _ => rfl) rfl rfl []).2.1 _ rfl
  exact ⟨entries, owners, groups⟩

end Rollup.Document
