import DocQuery.Cache
import DocQuery.Catalog.Basic
import DocQuery.Duration
import DocQuery.Metrics

/-!
# Flows of control

A flow is a program as a tree: a command, and for every answer to it the flow that follows. What the
commands do is left to whoever runs the flow, so that the same flow can run by itself, beside
others, and against any catalog. A flow can be interrupted only at the commands that wait.
-/

namespace DocQuery.Provision

/-- What a lock is for: the function that is created in a container while the lock is held. -/
abbrev LockKey := Container × String

/-- A lock of a provisioner, by the number that it got when it was made. -/
abbrev LockId := Nat

inductive Command where
  /-- What the cache holds. -/
  | readCache
  | changeCache (c : Cache.Change)
  | count (c : Counter)
  | report (e : Event)
  /-- The name of the catalog. -/
  | catalogName
  /-- Waits for the answer of the catalog. -/
  | request (r : Catalog.Request)
  /-- Waits for a number of milliseconds. -/
  | sleep (ms : Nat)
  /-- The lock that serves a key, to be used from now on. -/
  | fetchLock (key : LockKey)
  /-- Waits until a lock is free, and takes it. -/
  | acquire (l : LockId)
  | release (l : LockId)
  /-- Ends the use of the lock that was fetched for a key. -/
  | discard (key : LockKey) (l : LockId)

def Command.Answer : Command → Type
  | .readCache => Cache
  | .catalogName => String
  | .request r => Catalog.Reply r
  | .changeCache _ => Unit
  | .count _ => Unit
  | .report _ => Unit
  | .sleep _ => Unit
  | .fetchLock _ => LockId
  | .acquire _ => Unit
  | .release _ => Unit
  | .discard _ _ => Unit

inductive Flow (α : Type) where
  | done (a : α)
  | step (c : Command) (next : c.Answer → Flow α)

namespace Flow

variable {α β γ : Type}

def bind : Flow α → (α → Flow β) → Flow β
  | .done a, f => f a
  | .step c next, f => .step c fun a => (next a).bind f

instance : Monad Flow where
  pure := .done
  bind := bind

def perform (c : Command) : Flow c.Answer := .step c .done

@[simp] theorem pure_bind' (a : α) (f : α → Flow β) : (Flow.done a).bind f = f a := rfl

@[simp] theorem step_bind (c : Command) (next : c.Answer → Flow α) (f : α → Flow β) :
    (Flow.step c next).bind f = .step c fun a => (next a).bind f := rfl

theorem bind_done (p : Flow α) : p.bind .done = p := by
  induction p with
  | done a => rfl
  | step c next ih => simp [ih]

theorem bind_assoc (p : Flow α) (f : α → Flow β) (g : β → Flow γ) :
    (p.bind f).bind g = p.bind fun a => (f a).bind g := by
  induction p with
  | done a => rfl
  | step c next ih => simp [ih]

instance : LawfulMonad Flow := LawfulMonad.mk' Flow bind_done (fun _ _ => rfl) bind_assoc

def readCache : Flow Cache := perform .readCache

def changeCache (c : Cache.Change) : Flow Unit := perform (.changeCache c)

def count (c : Counter) : Flow Unit := perform (.count c)

def report (e : Event) : Flow Unit := perform (.report e)

def catalogName : Flow String := perform .catalogName

def request (r : Catalog.Request) : Flow (Catalog.Reply r) := perform (.request r)

def sleep (d : Duration) : Flow Unit := perform (.sleep d.millis)

def fetchLock (key : LockKey) : Flow LockId := perform (.fetchLock key)

def acquire (l : LockId) : Flow Unit := perform (.acquire l)

def release (l : LockId) : Flow Unit := perform (.release l)

def discard (key : LockKey) (l : LockId) : Flow Unit := perform (.discard key l)

end Flow
end DocQuery.Provision
