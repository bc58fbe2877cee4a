import Rollup.Relational.Pool

/-!
What an attempt to get a connection can come to (`attempted_of_acquire`), and that connections are
given back: a store with a free permit runs any action on its database and has a free permit
afterwards. Whatever comes of an attempt, as many connections are in use in the end as before.
-/
namespace Rollup

namespace Pool

def Free (pool : Pool) : Prop :=
  0 < pool.permits

theorem free_ofSize (size : Nat) : (ofSize size).Free :=
  Nat.lt_of_lt_of_le Nat.zero_lt_one (Nat.le_max_right size 1)

theorem free_of_permits {pool : Pool} {permits : Nat} (h : pool.permits = permits + 1) :
    pool.Free := by
  rw [Free, h]
  exact Nat.succ_pos permits

inductive Attempted (pool : Pool) (canConnect : Bool) : Attempt → Pool → Prop
  | pending : ¬ pool.Free → Attempted pool canConnect .pending pool
  | reused (connection permits : Nat) (idle : List Nat) :
    pool.permits = permits + 1 → pool.idle = connection :: idle →
    Attempted pool canConnect (.granted connection)
      { pool with permits, idle, held := connection :: pool.held }
  | made (permits : Nat) : pool.permits = permits + 1 → pool.idle = [] → canConnect = true →
    Attempted pool canConnect (.granted pool.created)
      { pool with permits, held := pool.created :: pool.held, created := pool.created + 1 }
  | failed : pool.Free → pool.idle = [] → canConnect = false →
    Attempted pool canConnect .failed pool

theorem attempted_of_acquire {pool taken : Pool} {canConnect : Bool} {attempt : Attempt}
    (h : pool.acquire canConnect = (attempt, taken)) :
    Attempted pool canConnect attempt taken := by
  obtain ⟨rfl, rfl⟩ := Prod.mk.inj h
  obtain ⟨size, permits, idle, held, created⟩ := pool
  cases permits with
  | zero => exact .pending (Nat.lt_irrefl 0)
  | succ permits =>
    cases idle with
    | cons connection idle => exact .reused connection permits idle rfl rfl
    | nil =>
      cases canConnect with
      | true => exact .made permits rfl rfl rfl
      | false => exact .failed (Nat.succ_pos permits) rfl rfl

theorem Attempted.pending_iff {pool taken : Pool} {canConnect : Bool} {attempt : Attempt}
    (h : Attempted pool canConnect attempt taken) : attempt = .pending ↔ ¬ pool.Free := by
  cases h with
  | pending stuck => exact ⟨fun _ => stuck, fun _ => rfl⟩
  | reused _ _ _ some => exact ⟨nofun, fun stuck => absurd (free_of_permits some) stuck⟩
  | made _ some => exact ⟨nofun, fun stuck => absurd (free_of_permits some) stuck⟩
  | failed free => exact ⟨nofun, fun stuck => absurd free stuck⟩

/-- An attempt that is given up and one that fails leave the pool as it was. -/
theorem Attempted.eq_of_ungranted {pool taken : Pool} {canConnect : Bool} {attempt : Attempt}
    (h : Attempted pool canConnect attempt taken)
    (ungranted : ∀ connection, attempt ≠ .granted connection) : taken = pool := by
  cases h with
  | pending => rfl
  | failed => rfl
  | reused connection => exact absurd rfl (ungranted connection)
  | made => exact absurd rfl (ungranted pool.created)

theorem Free.attempted {pool : Pool} (h : pool.Free) :
    ∃ connection taken, pool.acquire true = (.granted connection, taken) ∧
      Attempted pool true (.granted connection) taken := by
  rcases tried : pool.acquire true with ⟨attempt, taken⟩
  have attempted := attempted_of_acquire tried
  cases attempt with
  | granted connection => exact ⟨connection, taken, rfl, attempted⟩
  | pending => exact absurd h (attempted.pending_iff.1 rfl)
  | failed => cases attempted with | failed _ _ cannot => cases cannot

/-- A connection that is granted and given back leaves the permits as they were. -/
theorem Attempted.release {pool taken : Pool} {canConnect : Bool} {connection : Nat}
    (h : Attempted pool canConnect (.granted connection) taken) :
    (taken.release connection).size = pool.size ∧
      (taken.release connection).permits = pool.permits := by
  cases h with
  | reused _ permits idle some first =>
    rw [Pool.release, if_pos List.mem_cons_self]
    exact ⟨rfl, some.symm⟩
  | made permits some none can =>
    rw [Pool.release, if_pos List.mem_cons_self]
    exact ⟨rfl, some.symm⟩

theorem Attempted.inUse_release {pool taken : Pool} {canConnect : Bool} {connection : Nat}
    (h : Attempted pool canConnect (.granted connection) taken) :
    (taken.release connection).inUse = pool.inUse := by
  rw [inUse, inUse, h.release.1, h.release.2]

end Pool

theorem Store.withConnection_eq {α : Type} {store : Store} (free : store.pool.Free)
    (action : Database → Outcome α × Database) :
    ∃ pool : Pool, pool.Free ∧
      store.withConnection action =
        ((action store.database).1, ⟨pool, (action store.database).2⟩) := by
  obtain ⟨connection, taken, granted, attempted⟩ := free.attempted
  refine ⟨taken.release connection, ?_, ?_⟩
  · rw [Pool.Free, attempted.release.2]
    exact free
  · rw [withConnection, granted]

theorem Store.withConnection_of_not_free {α : Type} {store : Store} (taken : ¬ store.pool.Free)
    (action : Database → Outcome α × Database) :
    store.withConnection action =
      (.error (.error (.reported .state "no connection is free")), store) := by
  have pending : store.pool.acquire true = (.pending, store.pool) := by
    rcases tried : store.pool.acquire true with ⟨attempt, pool⟩
    have attempted := Pool.attempted_of_acquire tried
    obtain rfl := attempted.pending_iff.2 taken
    rw [attempted.eq_of_ungranted nofun]
  rw [withConnection, pending]

theorem Store.inUse_withConnection {α : Type} (store : Store)
    (action : Database → Outcome α × Database) :
    (store.withConnection action).2.pool.inUse = store.pool.inUse := by
  by_cases free : store.pool.Free
  · obtain ⟨connection, taken, granted, attempted⟩ := free.attempted
    rw [withConnection, granted]
    exact attempted.inUse_release
  · rw [withConnection_of_not_free free]

/-- What an action keeps of the database is kept. -/
theorem Store.withConnection_keeps {α : Type} {store : Store} {P : Database → Prop}
    {action : Database → Outcome α × Database} (start : P store.database)
    (step : P (action store.database).2) : P (store.withConnection action).2.database := by
  by_cases free : store.pool.Free
  · obtain ⟨pool, -, eq⟩ := withConnection_eq free action
    rw [eq]
    exact step
  · rw [withConnection_of_not_free free]
    exact start

/-- A connection that is granted and given back, or not granted at all, leaves as many in use as
before. -/
theorem Pool.inUse_acquire (pool : Pool) (canConnect : Bool) (attempt : Attempt) (taken : Pool) :
    pool.acquire canConnect = (attempt, taken) →
      match attempt with
      | .granted connection => (taken.release connection).inUse = pool.inUse
      | _ => taken = pool := by
  intro h
  have attempted := attempted_of_acquire h
  cases attempt with
  | granted connection => exact attempted.inUse_release
  | pending => exact attempted.eq_of_ungranted nofun
  | failed => exact attempted.eq_of_ungranted nofun

end Rollup
