import Rollup.Proofs.Catalog.Alike
import Mathlib.Data.List.Induction

/-!
Where the columns of a metric are stored, over histories: any renames, then any models. A rename for
the metric goes before one for every metric, and that before the model. Of several renames of one
column, of several models of one name and of several columns of one name in a model the last counts,
but of several columns for a value the first. Main statement: `columns_resolve`.
-/
namespace Rollup

section Ends

variable {α β : Type} {p : α → Prop} {items : List α} {item : α}

def IsLast (p : α → Prop) (items : List α) (item : α) : Prop :=
  ∃ before after, items = before ++ item :: after ∧ p item ∧ ∀ later ∈ after, ¬ p later

def IsFirst (p : α → Prop) (items : List α) (item : α) : Prop :=
  ∃ before after, items = before ++ item :: after ∧ p item ∧ ∀ earlier ∈ before, ¬ p earlier

theorem IsLast.holds (h : IsLast p items item) : p item := by
  obtain ⟨-, -, -, own, -⟩ := h
  exact own

theorem isFirst_iff_find? [DecidablePred p] :
    IsFirst p items item ↔ items.find? (fun item => p item) = some item := by
  rw [IsFirst, List.find?_eq_some_iff_append]
  simp only [decide_eq_true_eq, Bool.not_eq_eq_eq_not, Bool.not_true, decide_eq_false_iff_not]
  constructor
  · rintro ⟨before, after, rfl, own, others⟩
    exact ⟨own, before, after, rfl, others⟩
  · rintro ⟨own, before, after, rfl, others⟩
    exact ⟨before, after, rfl, own, others⟩

theorem isLast_iff_isFirst_reverse : IsLast p items item ↔ IsFirst p items.reverse item := by
  constructor
  · rintro ⟨before, after, rfl, own, others⟩
    exact ⟨after.reverse, before.reverse, by simp, own, by simpa using others⟩
  · rintro ⟨before, after, eq, own, others⟩
    refine ⟨after.reverse, before.reverse, ?_, own, by simpa using others⟩
    rw [← items.reverse_reverse, eq]
    simp

theorem isLast_iff_find? [DecidablePred p] :
    IsLast p items item ↔ items.reverse.find? (fun item => p item) = some item :=
  isLast_iff_isFirst_reverse.trans isFirst_iff_find?

theorem exists_isLast_iff : (∃ item, IsLast p items item) ↔ ∃ item ∈ items, p item := by
  classical
  simp only [isLast_iff_find?, ← Option.isSome_iff_exists, List.find?_isSome, List.mem_reverse,
    decide_eq_true_eq]

/-- The last item of a longer list is the new one, if it has the property. -/
theorem isLast_concat_iff {added : α} : IsLast p (items ++ [added]) item ↔
    (p added ∧ added = item) ∨ (¬ p added ∧ IsLast p items item) := by
  classical
  rw [isLast_iff_find?, isLast_iff_find?, List.reverse_concat, List.find?_cons]
  by_cases own : p added <;> simp [own]

theorem isLast_insert_iff {before after : List α} {added : α} (h : ¬ p added) :
    IsLast p (before ++ added :: after) item ↔ IsLast p (before ++ after) item := by
  classical
  rw [isLast_iff_find?, isLast_iff_find?]
  simp [List.find?_append, h]

/-- What a history of items sets is what the last item set that sets anything. By induction from the
end of the history. -/
theorem eq_some_iff_isLast (look : List α → Option β) (make : β → α) (injective : make.Injective)
    (start : look [] = none) (sets : ∀ items value, look (items ++ [make value]) = some value)
    (leaves : ∀ items item, (∀ value, make value ≠ item) → look (items ++ [item]) = look items)
    {value : β} : look items = some value ↔
      IsLast (fun item => ∃ other, make other = item) items (make value) := by
  induction items using List.reverseRecOn with
  | nil => simp [start, IsLast]
  | append_singleton items added ih =>
    rw [isLast_concat_iff]
    by_cases own : ∃ other, make other = added
    · obtain ⟨other, rfl⟩ := own
      simp [sets, injective.eq_iff]
    · rw [leaves items added (not_exists.1 own), ih]
      simp [own]

/-- Where what the last item set is found, nothing is found if no item sets anything. -/
theorem eq_none_iff_notMem {found : Option β} {make : β → α}
    (h : ∀ value, found = some value ↔
      IsLast (fun item => ∃ other, make other = item) items (make value)) :
    found = none ↔ ∀ value, make value ∉ items := by
  have set : (∃ value, found = some value) ↔ ∃ value, make value ∈ items := by
    simp only [h]
    constructor
    · rintro ⟨value, before, after, rfl, -⟩
      exact ⟨value, List.mem_append_right _ List.mem_cons_self⟩
    · rintro ⟨value, mem⟩
      obtain ⟨last, here⟩ :=
        exists_isLast_iff (p := fun item => ∃ other, make other = item).2 ⟨_, mem, value, rfl⟩
      obtain ⟨own, rfl⟩ := here.holds
      exact ⟨own, here⟩
  rw [← not_iff_not, ← ne_eq, Option.ne_none_iff_exists', set]
  simp

end Ends

namespace Overrides

/-- A call that renames a column, for every metric or for one. -/
inductive Call
  | rename (column storage : String)
  | renameFor (metric column storage : String)
deriving DecidableEq, Repr

def Call.run (overrides : Overrides) : Call → Overrides
  | rename column storage => overrides.rename column storage
  | renameFor metric column storage => overrides.renameFor metric column storage

def ofCalls (calls : List Call) : Overrides :=
  calls.foldl Call.run empty

theorem ofCalls_concat (calls : List Call) (call : Call) :
    ofCalls (calls ++ [call]) = call.run (ofCalls calls) := by
  rw [ofCalls, List.foldl_concat]
  rfl

/-- The name that a metric has for itself for a column. -/
def own? (overrides : Overrides) (metric column : String) : Option String :=
  (overrides.perMetric.lookup metric).bind fun renames => renames.lookup column

variable {calls : List Call} {metric column storage : String}

theorem own?_renameFor (overrides : Overrides) (metric column storage other name : String) :
    (overrides.renameFor metric column storage).own? other name =
      if metric = other ∧ column = name then some storage else overrides.own? other name := by
  rw [own?, renameFor, lookup_putUnder]
  by_cases same : metric = other
  · subst same
    rw [if_pos rfl, Option.bind_some, lookup_putUnder, own?]
    by_cases here : name = column
    · rw [if_pos here, if_pos ⟨rfl, here.symm⟩]
    · rw [if_neg here, if_neg fun both => here both.2.symm]
      cases overrides.perMetric.lookup metric <;> rfl
  · rw [if_neg (Ne.symm same), if_neg fun both => same both.1, own?]

theorem own?_ofCalls_eq_some_iff : (ofCalls calls).own? metric column = some storage ↔
    IsLast (fun call => ∃ other, .renameFor metric column other = call) calls
      (.renameFor metric column storage) := by
  refine eq_some_iff_isLast (fun calls => (ofCalls calls).own? metric column)
    (Call.renameFor metric column) ?_ rfl ?_ ?_
  · intro storage other same
    cases same
    rfl
  · intro calls storage
    rw [ofCalls_concat, Call.run, own?_renameFor, if_pos ⟨rfl, rfl⟩]
  · intro calls call other
    rw [ofCalls_concat]
    cases call with
    | rename column storage => rfl
    | renameFor renamed name storage =>
      have elsewhere : ¬ (renamed = metric ∧ name = column) := by
        rintro ⟨rfl, rfl⟩
        exact other storage rfl
      rw [Call.run, own?_renameFor, if_neg elsewhere]

theorem everywhere_ofCalls_eq_some_iff : (ofCalls calls).everywhere.lookup column = some storage ↔
    IsLast (fun call => ∃ other, .rename column other = call) calls (.rename column storage) := by
  refine eq_some_iff_isLast (fun calls => (ofCalls calls).everywhere.lookup column)
    (Call.rename column) ?_ rfl ?_ ?_
  · intro storage other same
    cases same
    rfl
  · intro calls storage
    rw [ofCalls_concat, Call.run, rename, lookup_putUnder, if_pos rfl]
  · intro calls call other
    rw [ofCalls_concat]
    cases call with
    | rename name storage =>
      have elsewhere : column ≠ name := fun same => other storage (same ▸ rfl)
      rw [Call.run, rename, lookup_putUnder, if_neg elsewhere]
    | renameFor metric name storage => rfl

end Overrides

/-- The name that a column of a metric is stored under after some renames and models. -/
inductive Resolves (calls : List Overrides.Call) (models : List Model) (metric column : String) :
    String → Prop
  | ofMetric {storage : String} :
    IsLast (fun call => ∃ other, .renameFor metric column other = call) calls
      (.renameFor metric column storage) → Resolves calls models metric column storage
  | ofAll {storage : String} : (∀ other, .renameFor metric column other ∉ calls) →
    IsLast (fun call => ∃ other, .rename column other = call) calls (.rename column storage) →
    Resolves calls models metric column storage
  | ofModel {model : Model} {own : Column} : (∀ other, .renameFor metric column other ∉ calls) →
    (∀ other, .rename column other ∉ calls) → IsLast (·.name = metric) models model →
    IsLast (·.name = column) model.columns own → Resolves calls models metric column own.storage

namespace Metadata

/-- The metadata of a deployment: its renames are made before its first model is added. -/
def ofCalls (calls : List Overrides.Call) (models : List Model) : Metadata :=
  models.foldl add (empty (some (.ofCalls calls)))

/-- A metric has the same columns in both, and the same column is its value. -/
def SameColumns (metric : String) (metadata other : Metadata) : Prop :=
  other.physicalName metric = metadata.physicalName metric ∧
    other.valueColumn metric = metadata.valueColumn metric

variable {calls : List Overrides.Call} {models : List Model} {metric column : String}
  {metadata other : Metadata}

theorem category_of_resolve_error {error : Error} (h : metadata.resolve metric = .error error) :
    error.category = .notFound := by
  rw [resolve] at h
  split at h
  · contradiction
  · cases h
    rfl

theorem category_of_physicalName_error {error : Error}
    (h : metadata.physicalName metric column = .error error) : error.category = .notFound := by
  rw [physicalName] at h
  split at h
  · contradiction
  · cases found : metadata.resolve metric with
    | error cause =>
      rw [found] at h
      cases h
      exact category_of_resolve_error found
    | ok model =>
      rw [found, Except.ok_bind] at h
      split at h <;> cases h
      rfl

theorem category_of_valueColumn_error {error : Error}
    (h : metadata.valueColumn metric = .error error) : error.category = .notFound := by
  rw [valueColumn] at h
  cases found : metadata.resolve metric with
  | error cause =>
    rw [found] at h
    cases h
    exact category_of_resolve_error found
  | ok model =>
    rw [found, Except.ok_bind] at h
    split at h <;> cases h
    rfl

theorem resolve_eq_ok_iff {model : Model} :
    metadata.resolve metric = .ok model ↔ metadata.models.lookup metric = some model := by
  rw [resolve]
  cases metadata.models.lookup metric <;> simp

theorem modelStorage?_eq_some_iff {model : Model} {storage : String} :
    modelStorage? model column = some storage ↔
      ∃ own, IsLast (·.name = column) model.columns own ∧ own.storage = storage := by
  simp only [modelStorage?, isLast_iff_find?, Option.map_eq_some_iff]

theorem physicalName_eq_ok_iff {storage : String} :
    metadata.physicalName metric column = .ok storage ↔
      metadata.override? metric column = some storage ∨
        metadata.override? metric column = none ∧ ∃ model,
          metadata.resolve metric = .ok model ∧ modelStorage? model column = some storage := by
  rw [physicalName]
  cases metadata.override? metric column with
  | some renamed => simp
  | none =>
    rw [Except.bind_eq_ok_iff]
    simp only [reduceCtorEq, true_and, false_or]
    refine exists_congr fun model => and_congr_right fun _ => ?_
    cases modelStorage? model column <;> simp

theorem valueColumn_eq_ok_iff : metadata.valueColumn metric = .ok column ↔
    ∃ model own, metadata.resolve metric = .ok model ∧
      IsFirst (·.role = .value) model.columns own ∧ own.name = column := by
  rw [valueColumn, Except.bind_eq_ok_iff]
  refine exists_congr fun model => ?_
  rw [exists_and_left]
  refine and_congr_right fun _ => ?_
  simp only [isFirst_iff_find?]
  rw [← Option.map_eq_some_iff, ← Model.valueColumn?]
  cases model.valueColumn? <;> simp

theorem SameColumns.of_parts (modelled : other.models.lookup metric = metadata.models.lookup metric)
    (renamed : other.override? metric = metadata.override? metric) :
    SameColumns metric metadata other := by
  have found : other.resolve metric = metadata.resolve metric := by
    rw [resolve, resolve, modelled]
  refine ⟨?_, by rw [valueColumn, valueColumn, found]⟩
  funext column
  rw [physicalName, physicalName, renamed, found]

theorem lookup_ofCalls_eq_some_iff {model : Model} :
    (ofCalls calls models).models.lookup metric = some model ↔
      IsLast (·.name = metric) models model := by
  rw [ofCalls, lookup_foldl_add, isLast_iff_find?]
  simp [empty]

theorem override?_ofCalls (calls : List Overrides.Call) (models : List Model)
    (metric column : String) : (ofCalls calls models).override? metric column =
      ((Overrides.ofCalls calls).own? metric column).or
        ((Overrides.ofCalls calls).everywhere.lookup column) := by
  rw [override?, ofCalls, overrides_foldl_add]
  rfl

theorem physicalName_ofCalls_eq_ok_iff {storage : String} :
    (ofCalls calls models).physicalName metric column = .ok storage ↔
      Resolves calls models metric column storage := by
  have ofMetric : (Overrides.ofCalls calls).own? metric column = none ↔
      ∀ other, .renameFor metric column other ∉ calls :=
    eq_none_iff_notMem fun _ => Overrides.own?_ofCalls_eq_some_iff
  have ofAll : (Overrides.ofCalls calls).everywhere.lookup column = none ↔
      ∀ other, .rename column other ∉ calls :=
    eq_none_iff_notMem fun _ => Overrides.everywhere_ofCalls_eq_some_iff
  simp only [physicalName_eq_ok_iff, override?_ofCalls, Option.or_eq_some_iff,
    Option.or_eq_none_iff, ofMetric, ofAll, Overrides.own?_ofCalls_eq_some_iff,
    Overrides.everywhere_ofCalls_eq_some_iff, resolve_eq_ok_iff, lookup_ofCalls_eq_some_iff,
    modelStorage?_eq_some_iff]
  constructor
  · rintro ((last | ⟨none, last⟩) | ⟨⟨none, nowhere⟩, model, last, own, column, rfl⟩)
    · exact .ofMetric last
    · exact .ofAll none last
    · exact .ofModel none nowhere last column
  · rintro (last | ⟨none, last⟩ | ⟨none, nowhere, last, column⟩)
    · exact .inl (.inl last)
    · exact .inl (.inr ⟨none, last⟩)
    · exact .inr ⟨⟨none, nowhere⟩, _, last, _, column, rfl⟩

theorem sameColumns_insert_model {before after : List Model} {added : Model}
    (h : added.name ≠ metric) : SameColumns metric (ofCalls calls (before ++ after))
      (ofCalls calls (before ++ added :: after)) := by
  refine .of_parts ?_ ?_
  · apply Option.ext
    intro model
    rw [lookup_ofCalls_eq_some_iff, lookup_ofCalls_eq_some_iff]
    exact isLast_insert_iff h
  · funext column
    rw [override?_ofCalls, override?_ofCalls]

theorem sameColumns_insert_rename {before after : List Overrides.Call}
    {renamed column storage : String} (h : renamed ≠ metric) :
    SameColumns metric (ofCalls (before ++ after) models)
      (ofCalls (before ++ .renameFor renamed column storage :: after) models) := by
  refine .of_parts ?_ ?_
  · apply Option.ext
    intro model
    rw [lookup_ofCalls_eq_some_iff, lookup_ofCalls_eq_some_iff]
  · funext name
    rw [override?_ofCalls, override?_ofCalls]
    congr 1
    · apply Option.ext
      intro own
      rw [Overrides.own?_ofCalls_eq_some_iff, Overrides.own?_ofCalls_eq_some_iff,
        isLast_insert_iff]
      rintro ⟨other, same⟩
      cases same
      exact h rfl
    · apply Option.ext
      intro own
      rw [Overrides.everywhere_ofCalls_eq_some_iff, Overrides.everywhere_ofCalls_eq_some_iff,
        isLast_insert_iff]
      rintro ⟨other, same⟩
      cases same

/-- After any renames and any models: a column of a metric is stored under the name that it resolves
to, and a metric without such a name is not found; the value of a metric is the first column for a
value of its last model; and models of other names and renames of other metrics make no difference,
whenever they come. -/
theorem columns_resolve (calls : List Overrides.Call) (models : List Model) (metric : String) :
    let metadata := ofCalls calls models
    (∀ column storage, metadata.physicalName metric column = .ok storage ↔
      Resolves calls models metric column storage) ∧
    (∀ column error, metadata.physicalName metric column = .error error →
      error.category = .notFound) ∧
    (∀ column, metadata.valueColumn metric = .ok column ↔ ∃ model own,
      IsLast (·.name = metric) models model ∧ IsFirst (·.role = .value) model.columns own ∧
      own.name = column) ∧
    (∀ error, metadata.valueColumn metric = .error error → error.category = .notFound) ∧
    (∀ before after added, models = before ++ after → added.name ≠ metric →
      SameColumns metric metadata (ofCalls calls (before ++ added :: after))) ∧
    ∀ before after renamed column storage, calls = before ++ after → renamed ≠ metric →
      SameColumns metric metadata
        (ofCalls (before ++ .renameFor renamed column storage :: after) models) := by
  intro metadata
  refine ⟨fun column storage => physicalName_ofCalls_eq_ok_iff,
    fun column error => category_of_physicalName_error, fun column => ?_,
    fun error => category_of_valueColumn_error, ?_, ?_⟩
  · rw [valueColumn_eq_ok_iff]
    simp only [metadata, resolve_eq_ok_iff, lookup_ofCalls_eq_some_iff]
  · rintro before after added rfl other
    exact sameColumns_insert_model other
  · rintro before after renamed column storage rfl other
    exact sameColumns_insert_rename other

/-- A model that is replaced, columns and renames that are repeated, one of them to an empty name,
and a metric without a model. -/
theorem columns_resolve_replaced :
    let calls : List Overrides.Call := [.renameFor "sla" "match" "sla_match",
      .renameFor "sla" "match" "", .rename "match" "match_num"]
    let replaced : Model := .ofKind "sla" .average
    let model : Model :=
      ⟨"sla", [⟨"total", "first", .storageOnly⟩, ⟨"total", "last", .value⟩, .plain "value" .value]⟩
    let metadata := ofCalls calls [replaced, model]
    Resolves calls [replaced, model] "sla" "match" "" ∧
      Resolves calls [replaced, model] "cpm" "match" "match_num" ∧
      Resolves calls [replaced, model] "sla" "total" "last" ∧
      (∃ error, metadata.physicalName "sla" "summation" = .error error ∧
        error.category = .notFound) ∧
      (∃ last own, IsLast (·.name = "sla") [replaced, model] last ∧
        IsFirst (·.role = .value) last.columns own ∧ own.name = "total") ∧
      SameColumns "sla" metadata (ofCalls calls [replaced, .ofKind "cpm" .cpm, model]) ∧
      SameColumns "sla" metadata
        (ofCalls (calls ++ [.renameFor "cpm" "total" "first"]) [replaced, model]) := by
  intro calls replaced model metadata
  obtain ⟨resolves, missing, value, -, models, renames⟩ :=
    columns_resolve calls [replaced, model] "sla"
  obtain ⟨other, -⟩ := columns_resolve calls [replaced, model] "cpm"
  have undefined : metadata.physicalName "sla" "summation" =
      .error (.undefinedColumn "summation" "sla") := rfl
  exact ⟨(resolves "match" "").1 rfl, (other "match" "match_num").1 rfl,
    (resolves "total" "last").1 rfl, ⟨_, undefined, missing _ _ undefined⟩,
    (value "total").1 rfl, models [replaced] [model] _ rfl (by decide),
    renames calls [] "cpm" "total" "first" (List.append_nil _).symm (by decide)⟩

end Metadata

end Rollup
