import Rollup.Catalog.Registry
import Rollup.Proofs.Association
import Rollup.Proofs.Outcome
import Mathlib.Data.Finset.Card
import Mathlib.Data.List.Induction

/-!
Registration over histories of calls, refused ones included. A name stands for the first descriptor
that was registered under it, so the registry is told by the calls without their order, unless two
of them conflict. Main statement: `first_registrations_stay`.
-/
namespace Rollup

theorem Kind.isA_iff {kind other : Kind} : kind.isA other = true ↔ kind.Specializes other := by
  fun_induction Kind.isA kind other with
  | case1 => exact ⟨fun _ => .refl _, fun _ => rfl⟩
  | case2 kind different parent above _ ih =>
    rw [ih]
    refine ⟨.step above, fun specializes => ?_⟩
    cases specializes with
    | refl => exact absurd rfl different
    | step other up =>
      cases above.symm.trans other
      exact up
  | case3 kind different top =>
    refine ⟨nofun, fun specializes => ?_⟩
    cases specializes with
    | refl => exact absurd rfl different
    | step above up => cases top.symm.trans above

namespace Registry

theorem resolve_eq_ok_iff {registry : Registry} {name : String} {descriptor : Descriptor} :
    registry.resolve name = .ok descriptor ↔ registry.find? name = some descriptor := by
  rw [resolve]
  cases registry.find? name <;> simp

theorem attempt_of_find?_eq_some {registry : Registry} {descriptor first : Descriptor}
    (h : registry.find? descriptor.name = some first) :
    registry.attempt descriptor = registry := by
  rw [attempt, register, h]
  by_cases same : first = descriptor
  · simp only [if_pos same]
  · simp only [if_neg same]

theorem attempt_of_find?_eq_none {registry : Registry} {descriptor : Descriptor}
    (h : registry.find? descriptor.name = none) :
    registry.attempt descriptor = ⟨registry.descriptors ++ [descriptor]⟩ := by
  rw [attempt, register, h]

theorem find?_attempt (registry : Registry) (descriptor : Descriptor) (name : String) :
    (registry.attempt descriptor).find? name =
      (registry.find? name).or (if descriptor.name = name then some descriptor else none) := by
  cases known : registry.find? descriptor.name with
  | none =>
    rw [attempt_of_find?_eq_none known, find?, List.find?_append, List.find?_singleton]
    simp [find?]
  | some first =>
    rw [attempt_of_find?_eq_some known]
    by_cases same : descriptor.name = name
    · rw [← same, known]
      rfl
    · rw [if_neg same, Option.or_none]

/-- A call that registers a name, with a whole descriptor or with a kind and the function name that
the kind declares. -/
inductive Call
  | described (descriptor : Descriptor)
  | declared (name : String) (kind : Kind)
deriving DecidableEq, Repr

namespace Call

def descriptor : Call → Descriptor
  | described descriptor => descriptor
  | declared name kind => .ofKind name kind

def name (call : Call) : String :=
  call.descriptor.name

def run (registry : Registry) : Call → Except Error Registry
  | described descriptor => registry.register descriptor
  | declared name kind => registry.registerKind name kind

theorem run_eq (registry : Registry) (call : Call) :
    call.run registry = registry.register call.descriptor := by
  cases call <;> rfl

end Call

/-- The registry after some calls. A call that is refused does not stop those that follow. -/
def ofCalls (calls : List Call) : Registry :=
  calls.foldl (fun registry call => registry.attempt call.descriptor) empty

theorem ofCalls_concat (calls : List Call) (call : Call) :
    ofCalls (calls ++ [call]) = (ofCalls calls).attempt call.descriptor := by
  rw [ofCalls, List.foldl_concat]
  rfl

/-- What a name stands for is the first descriptor under it among all calls. -/
theorem find?_ofCalls (calls : List Call) (name : String) :
    (ofCalls calls).find? name = (calls.map Call.descriptor).find? (·.name = name) := by
  induction calls using List.reverseRecOn with
  | nil => rfl
  | append_singleton calls call ih =>
    rw [ofCalls_concat, find?_attempt, ih, List.map_append, List.find?_append]
    simp [List.find?_singleton]

theorem nodup_names_ofCalls (calls : List Call) :
    ((ofCalls calls).descriptors.map Descriptor.name).Nodup := by
  induction calls using List.reverseRecOn with
  | nil => exact .nil
  | append_singleton calls call ih =>
    rw [ofCalls_concat]
    cases known : (ofCalls calls).find? call.descriptor.name with
    | some first => rwa [attempt_of_find?_eq_some known]
    | none =>
      rw [attempt_of_find?_eq_none known, List.map_append, List.nodup_append]
      refine ⟨ih, List.nodup_singleton _, ?_⟩
      rintro _ mem _ last rfl
      obtain ⟨descriptor, listed, same⟩ := List.mem_map.1 mem
      have other := List.find?_eq_none.1 known descriptor listed
      exact other (by simpa [same] using last)

theorem mem_descriptors_iff (calls : List Call) (descriptor : Descriptor) :
    descriptor ∈ (ofCalls calls).descriptors ↔
      (ofCalls calls).find? descriptor.name = some descriptor := by
  rw [find?]
  refine ⟨fun mem => ?_, List.mem_of_find?_eq_some⟩
  cases found : (ofCalls calls).descriptors.find? (·.name = descriptor.name) with
  | none => exact absurd (by simp) (List.find?_eq_none.1 found descriptor mem)
  | some other =>
    have same : other.name = descriptor.name := by simpa using List.find?_some found
    exact congrArg some (List.inj_on_of_nodup_map (nodup_names_ofCalls calls)
      (List.mem_of_find?_eq_some found) mem same)

theorem mem_names_iff (calls : List Call) (name : String) :
    name ∈ (ofCalls calls).descriptors.map Descriptor.name ↔ name ∈ calls.map Call.name := by
  have known : ((ofCalls calls).find? name).isSome ↔
      ((calls.map Call.descriptor).find? (·.name = name)).isSome := by
    rw [find?_ofCalls]
  rw [find?, List.find?_isSome, List.find?_isSome] at known
  simpa [Call.name] using known

/-- No name is registered with two descriptors. -/
def ConflictFree (calls : List Call) : Prop :=
  ∀ a ∈ calls, ∀ b ∈ calls, a.name = b.name → a.descriptor = b.descriptor

/-- Without conflicts a name stands for the one descriptor under it, wherever that is called. -/
theorem find?_ofCalls_eq_some_iff {calls : List Call} (free : ConflictFree calls) {name : String}
    {descriptor : Descriptor} : (ofCalls calls).find? name = some descriptor ↔
      descriptor ∈ calls.map Call.descriptor ∧ descriptor.name = name := by
  rw [find?_ofCalls]
  constructor
  · exact fun found => ⟨List.mem_of_find?_eq_some found, by simpa using List.find?_some found⟩
  · rintro ⟨called, rfl⟩
    obtain ⟨call, mem, rfl⟩ := List.mem_map.1 called
    cases found : (calls.map Call.descriptor).find? (·.name = call.descriptor.name) with
    | none => exact absurd (by simp) (List.find?_eq_none.1 found _ called)
    | some other =>
      obtain ⟨first, listed, rfl⟩ := List.mem_map.1 (List.mem_of_find?_eq_some found)
      have same : first.descriptor.name = call.descriptor.name := by
        simpa using List.find?_some found
      rw [free first listed call mem same]

/-- Calls with the same descriptors, in any order and any number, give the same registry. -/
theorem find?_congr {calls others : List Call} (free : ConflictFree calls)
    (same : ∀ descriptor, descriptor ∈ calls.map Call.descriptor ↔
      descriptor ∈ others.map Call.descriptor) (name : String) :
    (ofCalls others).find? name = (ofCalls calls).find? name := by
  have freeOthers : ConflictFree others := by
    intro a memA b memB eq
    obtain ⟨c, memC, first⟩ := List.mem_map.1 ((same _).2 (List.mem_map_of_mem memA))
    obtain ⟨d, memD, second⟩ := List.mem_map.1 ((same _).2 (List.mem_map_of_mem memB))
    rw [← first, ← second]
    refine free c memC d memD ?_
    rw [Call.name, Call.name, first, second]
    exact eq
  apply Option.ext
  intro descriptor
  rw [find?_ofCalls_eq_some_iff free, find?_ofCalls_eq_some_iff freeOthers, same]

theorem size_ofCalls (calls : List Call) :
    (ofCalls calls).size = (calls.map Call.name).toFinset.card := by
  rw [size, ← List.length_map Descriptor.name,
    ← List.toFinset_card_of_nodup (nodup_names_ofCalls calls)]
  congr 1
  ext name
  rw [List.mem_toFinset, List.mem_toFinset, mem_names_iff]

/-- Registries in which every name stands for the same descriptor have the same descriptors. -/
theorem perm_descriptors {calls others : List Call}
    (h : ∀ name, (ofCalls others).find? name = (ofCalls calls).find? name) :
    (ofCalls others).descriptors.Perm (ofCalls calls).descriptors := by
  rw [List.perm_ext_iff_of_nodup (nodup_names_ofCalls others).of_map
    (nodup_names_ofCalls calls).of_map]
  intro descriptor
  rw [mem_descriptors_iff, mem_descriptors_iff, h]

theorem Call.run_of_find?_eq_some {registry : Registry} {call : Call} {first : Descriptor}
    (found : registry.find? call.name = some first) :
    call.run registry = if call.descriptor = first then .ok registry
      else .error (.conflictingKind call.name first.kind call.descriptor.kind) := by
  rw [Call.name] at found
  rw [Call.run_eq, register, found]
  by_cases same : call.descriptor = first
  · simp only [if_pos same, if_pos same.symm]
  · simp only [if_neg same, if_neg (Ne.symm same)]
    rfl

/-- Without conflicts no call is refused. -/
theorem foldlM_run {calls : List Call} (free : ConflictFree calls) :
    calls.foldlM Call.run empty = .ok (ofCalls calls) := by
  induction calls using List.reverseRecOn with
  | nil => rfl
  | append_singleton calls call ih =>
    have before : ConflictFree calls := fun a memA b memB =>
      free a (List.mem_append_left _ memA) b (List.mem_append_left _ memB)
    have accepted : call.run (ofCalls calls) = .ok (ofCalls (calls ++ [call])) := by
      rw [ofCalls_concat]
      cases known : (ofCalls calls).find? call.name with
      | none =>
        rw [Call.name] at known
        rw [attempt_of_find?_eq_none known, Call.run_eq, register, known]
      | some first =>
        obtain ⟨called, same⟩ := (find?_ofCalls_eq_some_iff before).1 known
        obtain ⟨other, mem, rfl⟩ := List.mem_map.1 called
        have equal : call.descriptor = other.descriptor :=
          free call (List.mem_concat_self) other (List.mem_append_left _ mem) same.symm
        rw [Call.run_of_find?_eq_some known, if_pos equal, attempt_of_find?_eq_some known]
    rw [List.foldlM_append, ih before, Except.ok_bind, List.foldlM_cons, accepted]
    rfl

/-- For every history of calls, refused ones included: a name resolves to the first descriptor
under it and else to nothing; a later call under the name succeeds exactly if its whole descriptor
is that one, and changes nothing; as many descriptors are registered as there are names; calls
without conflicts can be made in any order; and a name is of a kind exactly if the kind of its
descriptor specializes that one. -/
theorem first_registrations_stay (calls : List Call) :
    let registry := ofCalls calls
    (∀ name, registry.resolve name =
      match (calls.map Call.descriptor).find? (·.name = name) with
      | some first => .ok first
      | none => .error (.unknownMetric name)) ∧
    (∀ call first, registry.resolve call.name = .ok first →
      call.run registry = (if call.descriptor = first then .ok registry
        else .error (.conflictingKind call.name first.kind call.descriptor.kind)) ∧
      ofCalls (calls ++ [call]) = registry) ∧
    registry.size = (calls.map Call.name).toFinset.card ∧
    (∀ others, ConflictFree calls → (∀ descriptor, descriptor ∈ calls.map Call.descriptor ↔
        descriptor ∈ others.map Call.descriptor) →
      (ofCalls others).descriptors.Perm registry.descriptors ∧
      ∀ name, (ofCalls others).resolve name = registry.resolve name) ∧
    ∀ name kind, registry.isKind name kind = .ok true ↔
      ∃ first, registry.resolve name = .ok first ∧ first.kind.Specializes kind := by
  intro registry
  refine ⟨fun name => ?_, fun call first known => ?_, ?_, fun others free same => ?_,
    fun name kind => ?_⟩
  · have lookup : registry.find? name = (calls.map Call.descriptor).find? (·.name = name) :=
      find?_ofCalls calls name
    cases found : (calls.map Call.descriptor).find? (·.name = name) <;>
      simp only [resolve, lookup, found]
  · have found := resolve_eq_ok_iff.1 known
    exact ⟨Call.run_of_find?_eq_some found,
      (ofCalls_concat calls call).trans (attempt_of_find?_eq_some found)⟩
  · exact size_ofCalls calls
  · have found := find?_congr free same
    exact ⟨perm_descriptors found, fun name => by rw [resolve, resolve, found]⟩
  · rw [isKind, Except.map_eq_ok_iff]
    simp only [Kind.isA_iff]

end Registry

end Rollup
