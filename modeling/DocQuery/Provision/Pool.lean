import DocQuery.Provision.Provisioner
import DocQuery.Provision.World

/-!
# Operations side by side

A job is an operation of a provisioner. It begins with one thread; when a thread ends, the
requirements that it leaves are provided by further threads, of which only so many run at a time as
the settings allow. Results are taken in the order of the threads, and one that ends behind an
earlier thread keeps its place until its turn comes. The first error in that order is the error of
the job.

`Pool.resume?` lets one thread go on until it has to wait. In which order threads go on is not
decided here.
-/

namespace DocQuery.Provision

inductive Thread (σ : Type) where
  | ready (p : Flow Outcome)
  | paused (p : Pause σ Outcome)

namespace Thread

variable {σ : Type}

def outcome? : Thread σ → Option Outcome
  | .paused (.ended o) => some o
  | _ => none

/-- How a thread goes on when what it waits for has come. A thread that waits for a lock goes on
only after it has been handed the lock. -/
def wake? (t : Thread σ) (w : World σ) : Option (Flow Outcome × World σ) :=
  match t with
  | .ready p => some (p, w)
  | .paused (.asleep _ p) => some (p, w)
  | .paused (.awaiting _ _ finish next) =>
    let e := finish w.catalog
    some (next e.value, { w with toData := w.absorb e })
  | .paused (.queued _ _) => none
  | .paused (.ended _) => none

def grant : Thread σ → Thread σ
  | .paused (.queued _ p) => .ready p
  | t => t

/-- How long a thread waits, if it waits for time to pass. -/
def delay? : Thread σ → Option Nat
  | .paused (.asleep ms _) => some ms
  | .paused (.awaiting ms _ _ _) => some ms
  | _ => none

/-- The results of the threads in front that have ended. -/
def endedFirst : List (Thread σ) → List Outcome
  | [] => []
  | t :: ts =>
    match t.outcome? with
    | some o => o :: endedFirst ts
    | none => []

end Thread

structure Job (σ : Type) where
  provisioner : Provisioner
  container : Container
  place : Place
  threads : List (Thread σ)
  /-- How many results have been taken. -/
  taken : Nat := 0
  /-- What remains to be provided by threads that have not begun. -/
  backlog : List Requirement := []
  failure : Option Error := none

namespace Job

variable {σ : Type}

def start (p : Provisioner) (k : Container) (place : Place) (flow : Flow Outcome) : Job σ :=
  { provisioner := p, container := k, place, threads := [.ready flow] }

def collect (t : Job σ) : Job σ :=
  let outcomes := Thread.endedFirst (t.threads.drop t.taken)
  { t with
    taken := t.taken + outcomes.length
    backlog := t.backlog ++ outcomes.flatMap fun o => o.toOption.getD []
    failure := t.failure.or (outcomes.findSome? fun o =>
      match o with
      | .error e => some e
      | .ok _ => none) }

/-- Begins as many threads as have room. -/
def refill (t : Job σ) : Job σ :=
  let room := t.provisioner.settings.window - (t.threads.length - t.taken)
  let starting := t.backlog.take room
  { t with
    threads := t.threads ++ starting.map fun r => .ready (t.provisioner.ensure t.container r)
    backlog := t.backlog.drop room }

/-- Whether every result has been taken. -/
def isFinished (t : Job σ) : Bool := t.backlog.isEmpty && t.taken == t.threads.length

def result (t : Job σ) : Except Error Unit :=
  match t.failure with
  | some e => .error e
  | none => .ok ()

end Job

structure Pool (σ : Type) where
  world : World σ
  jobs : List (Job σ)

namespace Pool

variable {σ : Type}

def thread? (p : Pool σ) (id : ThreadId) : Option (Thread σ) := do
  (← p.jobs[id.job]?).threads[id.thread]?

def modifyJob (p : Pool σ) (i : Nat) (f : Job σ → Job σ) : Pool σ :=
  { p with jobs := p.jobs.modify i f }

def modifyThread (p : Pool σ) (id : ThreadId) (f : Thread σ → Thread σ) : Pool σ :=
  p.modifyJob id.job fun t => { t with threads := t.threads.modify id.thread f }

/-- What follows when a thread has gone on until it waits: threads that were handed a lock can go
on, and its job takes the results that are due and begins further threads. -/
def after (p : Pool σ) (id : ThreadId) (progress : Progress σ Outcome) : Pool σ :=
  let p := { p with world := progress.world }.modifyThread id fun _ => .paused progress.pause
  let p := progress.woken.foldl (fun p t => p.modifyThread t Thread.grant) p
  p.modifyJob id.job fun t => t.collect.refill

/-- Lets a thread go on until it has to wait. Tells which threads were handed a lock. -/
def resume? (catalog : Catalog σ) (now : Nat) (id : ThreadId) (p : Pool σ) :
    Option (Pool σ × List ThreadId) := do
  let job ← p.jobs[id.job]?
  let thread ← job.threads[id.thread]?
  let (flow, world) ← thread.wake? p.world
  let progress := flow.advance catalog now job.place id world
  return (p.after id progress, progress.woken)

end Pool
end DocQuery.Provision
