import Rollup.Relational.Database

/-!
A pool of connections to one database. Each connection that is handed out takes one of `size`
permits. An idle connection is handed out again, the one idle longest first, before a new one is
made.
-/
namespace Rollup

/-- Connections are numbered in the order in which they are made. The idle ones stand in the order
in which they came back; `held` are those that are handed out. -/
structure Pool where
  size : Nat
  permits : Nat
  idle : List Nat
  held : List Nat
  created : Nat
deriving DecidableEq, Repr

namespace Pool

/-- The bytes that the place of an idle connection takes. -/
def placeBytes : Nat := 136

/-- The greatest size whose places can be laid out: their bytes are counted in 63 bits. -/
def greatestSize : Nat := (Nat.pow 2 63 - 1) / placeBytes

/-- A pool that has handed out nothing yet; a size of zero counts as one. -/
def ofSize (size : Nat) : Pool :=
  ⟨max size 1, max size 1, [], [], 0⟩

def inUse (pool : Pool) : Nat :=
  pool.size - pool.permits

def returnPermit (pool : Pool) : Pool :=
  { pool with permits := pool.permits + 1 }

inductive Attempt
  | granted (connection : Nat)
  | pending
  | failed
deriving DecidableEq, Repr

/-- Tries to get a connection. Without a permit the attempt is given up; making a new connection
may fail, and the permit is returned then. -/
def acquire (pool : Pool) (canConnect : Bool) : Attempt × Pool :=
  match pool.permits with
  | 0 => (.pending, pool)
  | permits + 1 =>
    let pool := { pool with permits }
    match pool.idle with
    | connection :: idle =>
      (.granted connection, { pool with idle, held := connection :: pool.held })
    | [] =>
      if canConnect then
        (.granted pool.created,
          { pool with held := pool.created :: pool.held, created := pool.created + 1 })
      else (.failed, pool.returnPermit)

/-- Gives a connection back that is handed out, and after it the permit. -/
def release (pool : Pool) (connection : Nat) : Pool :=
  if connection ∈ pool.held then
    { pool with
      idle := pool.idle ++ [connection]
      held := pool.held.erase connection }.returnPermit
  else pool

inductive Event
  | attempt (canConnect : Bool)
  | release (connection : Nat)
deriving DecidableEq, Repr

def apply (pool : Pool) : Event → Pool
  | .attempt canConnect => (pool.acquire canConnect).2
  | .release connection => pool.release connection

end Pool

structure Store where
  pool : Pool
  database : Database
deriving DecidableEq, Repr

namespace Store

def ofSize (size : Nat) : Store :=
  ⟨.ofSize size, .empty⟩

def open? (path : String) (size : Nat) : Outcome Store := do
  let database ← Database.open? path
  if size ≤ Pool.greatestSize then .ok ⟨.ofSize size, database⟩
  else .error (.crash .poolTooLarge)

/-- Runs an action on a connection of the pool, which is given back whatever comes of it. -/
def withConnection {α : Type} (store : Store) (action : Database → Outcome α × Database) :
    Outcome α × Store :=
  match store.pool.acquire true with
  | (.granted connection, pool) =>
    let (outcome, database) := action store.database
    (outcome, ⟨pool.release connection, database⟩)
  | (_, pool) => (.error (.error (.reported .state "no connection is free")), { store with pool })

end Store

/-- Connections that are handed out under numbers of their own, counted from zero. -/
structure Leases where
  store : Store
  granted : List (Nat × Nat)
  next : Nat
deriving Repr

namespace Leases

def ofStore (store : Store) : Leases :=
  ⟨store, [], 0⟩

def acquire (leases : Leases) : Option Nat × Leases :=
  let (attempt, pool) := leases.store.pool.acquire true
  let store := { leases.store with pool }
  match attempt with
  | .granted connection =>
    (some leases.next,
      { store, granted := (leases.next, connection) :: leases.granted, next := leases.next + 1 })
  | _ => (none, { leases with store })

def release (leases : Leases) (number : Nat) : Bool × Leases :=
  match leases.granted.lookup number with
  | none => (false, leases)
  | some connection =>
    let store := { leases.store with pool := leases.store.pool.release connection }
    (true, { leases with store, granted := leases.granted.filter (·.1 ≠ number) })

def holds (leases : Leases) (number : Nat) : Bool :=
  (leases.granted.lookup number).isSome

def run {α : Type} (leases : Leases) (number : Nat)
    (action : Database → Outcome α × Database) : Outcome α × Leases :=
  if leases.holds number then
    let (outcome, database) := action leases.store.database
    (outcome, { leases with store := { leases.store with database } })
  else (.error (.error (.reported .state "no such connection")), leases)

end Leases

end Rollup
