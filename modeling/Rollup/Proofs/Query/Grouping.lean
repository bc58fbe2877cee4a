import Rollup.Proofs.Association
import Rollup.Query.Result
import Mathlib.Data.List.Basic
import Mathlib.Data.List.Induction

/-!
Grouping of value sets by the id they were found under. Main statement: `collect_eq`, there is one
result for each id, in the order in which the ids were first seen, and it holds the sets found
under the id in the order in which they were found.
-/
namespace Rollup.Result

variable {scope : Scope} {bucket : Int64}

def setsOf (found : List (String × ValueSet)) (id : String) : List ValueSet :=
  found.filterMap fun (other, set) => if other = id then some set else none

/-- The ids under which something was found, as they were first seen. -/
def idsOf (found : List (String × ValueSet)) : List String :=
  (found.map (·.1)).eraseDups

theorem setsOf_append (found more : List (String × ValueSet)) (id : String) :
    setsOf (found ++ more) id = setsOf found id ++ setsOf more id :=
  List.filterMap_append

theorem setsOf_singleton (id other : String) (set : ValueSet) :
    setsOf [(id, set)] other = if id = other then [set] else [] := by
  simp only [setsOf, List.filterMap_cons, List.filterMap_nil]
  split <;> simp_all

theorem idsOf_concat (found : List (String × ValueSet)) (id : String) (set : ValueSet) :
    idsOf (found ++ [(id, set)]) =
      if id ∈ idsOf found then idsOf found else idsOf found ++ [id] := by
  simp only [idsOf, List.map_append, List.map_cons, List.map_nil, List.eraseDups_append,
    List.mem_eraseDups]
  by_cases seen : id ∈ found.map (·.1)
  · rw [if_pos seen]
    simp [List.removeAll, seen]
  · rw [if_neg seen]
    simp [List.removeAll, seen, List.eraseDups_cons]

theorem setsOf_eq_nil {found : List (String × ValueSet)} {id : String} (h : id ∉ idsOf found) :
    setsOf found id = [] := by
  apply List.filterMap_eq_nil_iff.2
  intro entry mem
  have other : entry.1 ≠ id := by
    rintro rfl
    exact h (List.mem_eraseDups.2 (List.mem_map_of_mem mem))
  exact if_neg other

theorem nodup_idsOf (found : List (String × ValueSet)) : (idsOf found).Nodup := by
  induction found using List.reverseRecOn with
  | nil => exact .nil
  | append_singleton found last ih =>
    rw [idsOf_concat]
    split
    · exact ih
    · next unseen =>
      rw [List.nodup_append]
      refine ⟨ih, List.pairwise_singleton .., fun a mem b same => ?_⟩
      rw [List.mem_singleton.1 same]
      exact fun eq => unseen (eq ▸ mem)

def of (scope : Scope) (bucket : Int64) (found : List (String × ValueSet)) (id : String) : Result :=
  ⟨id, scope.id, Numeral.render bucket.toInt, setsOf found id⟩

@[simp] theorem id_of (found : List (String × ValueSet)) (id : String) :
    (of scope bucket found id).id = id := rfl

theorem of_concat_of_ne {id other : String} (h : id ≠ other) (found : List (String × ValueSet))
    (set : ValueSet) :
    of scope bucket (found ++ [(id, set)]) other = of scope bucket found other := by
  simp [of, setsOf_append, setsOf_singleton, h]

theorem add_map_of (found : List (String × ValueSet)) (id : String) (set : ValueSet)
    {ids : List String} (distinct : ids.Nodup) :
    add scope bucket id set (ids.map (of scope bucket found)) =
      if id ∈ ids then ids.map (of scope bucket (found ++ [(id, set)]))
      else ids.map (of scope bucket found) ++ [of scope bucket [(id, set)] id] := by
  induction ids with
  | nil => simp [add, of, setsOf_singleton]
  | cons first rest ih =>
    obtain ⟨fresh, distinct⟩ := List.nodup_cons.1 distinct
    rw [List.map_cons, add, id_of]
    by_cases same : first = id
    · subst same
      have others : rest.map (of scope bucket (found ++ [(first, set)])) =
          rest.map (of scope bucket found) :=
        List.map_congr_left fun other mem =>
          of_concat_of_ne (fun eq : first = other => fresh (eq ▸ mem)) found set
      rw [if_pos rfl, if_pos List.mem_cons_self, List.map_cons, others]
      simp [of, setsOf_append, setsOf_singleton]
    · have kept := @of_concat_of_ne scope bucket id first (Ne.symm same) found set
      rw [if_neg same, ih distinct]
      by_cases seen : id ∈ rest
      · rw [if_pos seen, if_pos (List.mem_cons_of_mem _ seen), List.map_cons, kept]
      · rw [if_neg seen, if_neg (by simp [Ne.symm same, seen]), List.cons_append]

theorem collect_eq (scope : Scope) (bucket : Int64) (found : List (String × ValueSet)) :
    collect scope bucket found = (idsOf found).map (of scope bucket found) := by
  induction found using List.reverseRecOn with
  | nil => rfl
  | append_singleton found last ih =>
    obtain ⟨id, set⟩ := last
    have step : collect scope bucket (found ++ [(id, set)]) =
        add scope bucket id set (collect scope bucket found) := by
      simp [collect, List.foldl_append]
    rw [step, ih, add_map_of found id set (nodup_idsOf found), idsOf_concat]
    split
    · rfl
    · next unseen =>
      have others : (idsOf found).map (of scope bucket (found ++ [(id, set)])) =
          (idsOf found).map (of scope bucket found) :=
        List.map_congr_left fun other mem =>
          of_concat_of_ne (fun eq : id = other => unseen (eq ▸ mem)) found set
      have none : setsOf found id = [] := setsOf_eq_nil unseen
      rw [List.map_append, others, List.map_cons, List.map_nil]
      simp [of, setsOf_append, none]

theorem setsOf_eq_map_filter (found : List (String × ValueSet)) (id : String) :
    setsOf found id = (found.filter (·.1 = id)).map (·.2) := by
  induction found with
  | nil => rfl
  | cons entry rest ih =>
    by_cases same : entry.1 = id
    · rw [List.filter_cons_of_pos (by simpa using same), List.map_cons, ← ih]
      exact List.filterMap_cons_some (if_pos same)
    · rw [List.filter_cons_of_neg (by simpa using same), ← ih]
      exact List.filterMap_cons_none (if_neg same)

theorem mem_idsOf_iff {found : List (String × ValueSet)} {id : String} :
    id ∈ idsOf found ↔ setsOf found id ≠ [] := by
  rw [idsOf, List.mem_eraseDups, setsOf_eq_map_filter]
  simp

/-- Where every id stands once, the order does not matter to the sets found under an id. -/
theorem setsOf_congr {found other : List (String × ValueSet)}
    (distinct : (found.map (·.1)).Nodup) (perm : found.Perm other) :
    setsOf found = setsOf other := by
  have eq_lookup {found : List (String × ValueSet)} (distinct : (found.map (·.1)).Nodup)
      (id : String) : setsOf found id = (found.lookup id).toList := by
    induction found with
    | nil => rfl
    | cons entry rest ih =>
      obtain ⟨first, set⟩ := entry
      obtain ⟨absent, distinct⟩ := List.nodup_cons.1 distinct
      rw [← List.singleton_append, setsOf_append, setsOf_singleton, List.singleton_append,
        List.lookup_cons]
      by_cases same : first = id
      · subst same
        have none : setsOf rest first = [] := setsOf_eq_nil fun mem =>
          absent (List.mem_eraseDups.1 mem)
        simp [none]
      · rw [beq_false_of_ne (Ne.symm same)]
        simp [same, ih distinct]
  funext id
  rw [eq_lookup distinct, eq_lookup ((perm.map _).nodup distinct), lookup_perm distinct perm]

/-- The results are decided, up to their order, by what was found under each id. -/
theorem collect_perm {found other : List (String × ValueSet)} (same : setsOf found = setsOf other)
    (scope : Scope) (bucket : Int64) :
    (collect scope bucket found).Perm (collect scope bucket other) := by
  have results : of scope bucket found = of scope bucket other := by
    funext id
    rw [of, of, same]
  have ids : (idsOf found).Perm (idsOf other) := by
    rw [List.perm_ext_iff_of_nodup (nodup_idsOf found) (nodup_idsOf other)]
    simp [mem_idsOf_iff, same]
  rw [collect_eq, collect_eq, results]
  exact ids.map _

/-- What was found is shared out among the ids, nothing lost and nothing twice. -/
theorem flatMap_setsOf_perm {found : List (String × ValueSet)} {ids : List String}
    (distinct : ids.Nodup) (all : ∀ entry ∈ found, entry.1 ∈ ids) :
    (ids.flatMap (setsOf found)).Perm (found.map (·.2)) := by
  induction ids generalizing found with
  | nil =>
    cases found with
    | nil => exact .nil
    | cons entry rest => exact absurd (all entry List.mem_cons_self) List.not_mem_nil
  | cons id rest ih =>
    obtain ⟨fresh, distinct⟩ := List.nodup_cons.1 distinct
    let others := found.filter fun entry => !decide (entry.1 = id)
    have elsewhere : rest.flatMap (setsOf found) = rest.flatMap (setsOf others) := by
      refine List.flatMap_congr fun other mem => ?_
      have ne : other ≠ id := fun eq => fresh (eq ▸ mem)
      rw [setsOf_eq_map_filter, setsOf_eq_map_filter, List.filter_filter]
      congr 1
      refine List.filter_congr fun entry _ => ?_
      by_cases same : entry.1 = other <;> simp [same, ne]
    have later : (rest.flatMap (setsOf others)).Perm (others.map (·.2)) := by
      refine ih distinct fun entry mem => ?_
      obtain ⟨mem, ne⟩ := List.mem_filter.1 mem
      exact (List.mem_cons.1 (all entry mem)).resolve_left (by simpa using ne)
    rw [List.flatMap_cons, elsewhere, setsOf_eq_map_filter]
    refine (later.append_left _).trans ?_
    rw [← List.map_append]
    exact (List.filter_append_perm _ found).map _

end Rollup.Result
