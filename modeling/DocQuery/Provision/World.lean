import DocQuery.Provision.Flow

/-!
# What flows act on

The catalog, the caches, and the counters and locks of each provisioner. Several provisioners can
share a cache.

A provisioner keeps a table of the locks in use. A thread that wants to create a function fetches
the lock that serves it, waits for it, and discards it in the end. Whoever discards a lock that
nobody else uses takes it out of the table.
-/

namespace DocQuery.Provision

open Catalog (Effect Reply Receipt)

/-- A flow of control: which job it belongs to, and its number there. -/
structure ThreadId where
  job : Nat
  thread : Nat
deriving DecidableEq, Repr

/-- A lock: how many use it, the table included, who holds it, and the threads that wait for it, the
first in front. -/
structure Lock where
  users : Nat := 0
  holder : Option ThreadId := none
  waiting : List ThreadId := []
deriving DecidableEq, Repr

/-- The locks of a provisioner: which one serves a key, how many have been made, and each by its
number. -/
structure LockTable where
  serving : Entries LockKey LockId := []
  made : Nat := 0
  locks : LockId → Lock := fun _ => {}

namespace LockTable

def setLock (t : LockTable) (l : LockId) (x : Lock) : LockTable :=
  { t with locks := fun i => if i = l then x else t.locks i }

/-- The lock that serves a key, with one more user. One is made if none serves the key; the table
and the thread that asked use it. -/
def fetch (t : LockTable) (key : LockKey) : LockId × LockTable :=
  match t.serving.get? key with
  | some l => (l, t.setLock l { t.locks l with users := (t.locks l).users + 1 })
  | none =>
    let t' := t.setLock t.made { users := 2 }
    (t.made, { t' with serving := t.serving.insert key t.made, made := t.made + 1 })

/-- Takes a lock and tells whether it was free. If it was not, the thread waits behind all the
others. -/
def acquire (t : LockTable) (l : LockId) (self : ThreadId) : Bool × LockTable :=
  let x := t.locks l
  match x.holder with
  | none => (true, t.setLock l { x with holder := some self })
  | some _ => (false, t.setLock l { x with waiting := x.waiting ++ [self] })

def release (t : LockTable) (l : LockId) : Option ThreadId × LockTable :=
  let x := t.locks l
  match x.waiting with
  | [] => (none, t.setLock l { x with holder := none })
  | next :: rest => (some next, t.setLock l { x with holder := some next, waiting := rest })

/-- Takes a lock out of the table if it serves the key and only the table and one thread use it. -/
def retire (t : LockTable) (key : LockKey) (l : LockId) : LockTable :=
  if t.serving.get? key = some l ∧ (t.locks l).users = 2 then
    { t.setLock l { t.locks l with users := (t.locks l).users - 1 } with
      serving := t.serving.erase key }
  else t

def discard (t : LockTable) (key : LockKey) (l : LockId) : LockTable :=
  let t := t.retire key l
  t.setLock l { t.locks l with users := (t.locks l).users - 1 }

end LockTable

/-- Where a flow finds its provisioner and its cache. -/
structure Place where
  site : Nat
  cache : Nat
deriving DecidableEq, Repr

/-- Everything that flows can change besides locks. The newest event stands in front. -/
structure Data (σ : Type) where
  catalog : σ
  caches : Nat → Cache := fun _ => .empty
  metrics : Nat → Metrics := fun _ => {}
  log : List Event := []

namespace Data

variable {σ : Type}

def changeCache (d : Data σ) (i : Nat) (c : Cache.Change) : Data σ :=
  let cache := (d.caches i).apply c
  { d with caches := fun j => if j = i then cache else d.caches j }

def report (d : Data σ) (e : Event) : Data σ := { d with log := e :: d.log }

def absorb {α : Type} (d : Data σ) (e : Effect σ α) : Data σ :=
  { d with catalog := e.state, log := e.events.reverse ++ d.log }

def count (d : Data σ) (i : Nat) (c : Counter) : Data σ :=
  let metrics := (d.metrics i).bump c
  { d with metrics := fun j => if j = i then metrics else d.metrics j }

end Data

structure World (σ : Type) extends Data σ where
  locks : Nat → LockTable := fun _ => {}

namespace World

variable {σ : Type}

def setLocks (w : World σ) (i : Nat) (t : LockTable) : World σ :=
  { w with locks := fun j => if j = i then t else w.locks j }

end World

/-- Why a flow cannot go on by itself. -/
inductive Pause (σ α : Type) where
  | ended (a : α)
  | asleep (ms : Nat) (next : Flow α)
  /-- The catalog answers later. -/
  | awaiting (ms : Nat) (r : Catalog.Request) (finish : σ → Effect σ (Reply r))
    (next : Reply r → Flow α)
  | queued (l : LockId) (next : Flow α)

/-- Where a flow has come, what it left, and the threads that it handed a lock to. -/
structure Progress (σ α : Type) where
  pause : Pause σ α
  world : World σ
  woken : List ThreadId

namespace Flow

variable {σ α : Type}

/-- Runs a flow until it has to wait. -/
def advance (catalog : Catalog σ) (now : Nat) (place : Place) (self : ThreadId) :
    Flow α → World σ → Progress σ α
  | .done a, w => ⟨.ended a, w, []⟩
  | .step .readCache next, w =>
    advance catalog now place self (next (w.caches place.cache)) w
  | .step (.changeCache c) next, w =>
    advance catalog now place self (next ()) { w with toData := w.changeCache place.cache c }
  | .step (.count c) next, w =>
    advance catalog now place self (next ()) { w with toData := w.count place.site c }
  | .step (.report e) next, w =>
    advance catalog now place self (next ()) { w with toData := w.report e }
  | .step .catalogName next, w => advance catalog now place self (next catalog.name) w
  | .step (.request r) next, w =>
    let e := catalog.submit now r w.catalog
    let w := { w with toData := w.absorb e }
    match e.value with
    | .now reply => advance catalog now place self (next reply) w
    | .later ms finish => ⟨.awaiting ms r finish next, w, []⟩
  | .step (.sleep ms) next, w =>
    if ms = 0 then advance catalog now place self (next ()) w
    else ⟨.asleep ms (next ()), w, []⟩
  | .step (.fetchLock key) next, w =>
    let (l, t) := (w.locks place.site).fetch key
    advance catalog now place self (next l) (w.setLocks place.site t)
  | .step (.acquire l) next, w =>
    let (free, t) := (w.locks place.site).acquire l self
    let w := w.setLocks place.site t
    if free then advance catalog now place self (next ()) w else ⟨.queued l (next ()), w, []⟩
  | .step (.release l) next, w =>
    let (woken, t) := (w.locks place.site).release l
    let p := advance catalog now place self (next ()) (w.setLocks place.site t)
    { p with woken := woken.toList ++ p.woken }
  | .step (.discard key l) next, w =>
    advance catalog now place self (next ())
      (w.setLocks place.site ((w.locks place.site).discard key l))

end Flow
end DocQuery.Provision
