import Mathlib.Data.List.Nodup

/-!
Look-ups in association lists. When every key stands once, what is found under a key is what the
list holds for it, so the order of the list does not matter.
-/
namespace Rollup

variable {α β : Type} [BEq α] [LawfulBEq α] {entries : List (α × β)}

theorem lookup_eq_some_iff_mem (distinct : (entries.map (·.1)).Nodup) {key : α} {value : β} :
    entries.lookup key = some value ↔ (key, value) ∈ entries := by
  induction entries with
  | nil => simp
  | cons head rest ih =>
    obtain ⟨first, held⟩ := head
    obtain ⟨absent, distinct⟩ := List.nodup_cons.1 distinct
    by_cases same : key = first
    · subst same
      have elsewhere : (key, value) ∉ rest := fun mem =>
        absent (List.mem_map.2 ⟨_, mem, rfl⟩)
      simp [elsewhere, eq_comm]
    · rw [List.lookup_cons, beq_false_of_ne same]
      simp [same, ih distinct]

theorem lookup_perm {others : List (α × β)} (distinct : (entries.map (·.1)).Nodup)
    (perm : entries.Perm others) (key : α) : entries.lookup key = others.lookup key := by
  apply Option.ext
  intro value
  have distinctOthers : (others.map (·.1)).Nodup := (perm.map _).nodup distinct
  rw [lookup_eq_some_iff_mem distinct, lookup_eq_some_iff_mem distinctOthers, perm.mem_iff]

omit [LawfulBEq α] in
theorem lookup_map_key {ι : Type} (f : ι → α) (items : List ι) (key : α) :
    (items.map fun item => (f item, item)).lookup key = items.find? fun item => key == f item := by
  induction items with
  | nil => rfl
  | cons item rest ih =>
    rw [List.map_cons, List.lookup_cons, List.find?_cons]
    split <;> simp_all

end Rollup
