import DocQuery.Provision.Pool

/-!
# Running jobs against a clock

Jobs take turns, and a job runs all of its threads that can go on before the next job has its turn.
When nothing can go on, the clock jumps to the time of the earliest wake-up, and the threads that
wake at that time go on in the order in which they began to wait. Nothing else takes time.
-/

namespace DocQuery.Provision

structure Timed (σ : Type) where
  pool : Pool σ
  now : Nat
  /-- When the waiting threads wake, in the order in which they began to wait. -/
  timers : List (Nat × ThreadId) := []
  /-- The jobs that have a turn, each with its threads that can go on. -/
  turns : List (Nat × List Nat) := []

namespace Timed

variable {σ : Type}

/-- Appends a thread to the turn of its job; a job without a turn is put last. -/
def addTurn (id : ThreadId) : List (Nat × List Nat) → List (Nat × List Nat)
  | [] => [(id.job, [id.thread])]
  | (job, threads) :: rest =>
    if job = id.job then (job, threads ++ [id.thread]) :: rest
    else (job, threads) :: addTurn id rest

def enqueue (t : Timed σ) (id : ThreadId) : Timed σ := { t with turns := addTurn id t.turns }

def begun (t : Timed σ) (job : Nat) : Nat :=
  (t.pool.jobs[job]?).elim 0 fun job => job.threads.length

def resume (catalog : Catalog σ) (id : ThreadId) (t : Timed σ) : Timed σ :=
  match t.pool.resume? catalog t.now id with
  | none => t
  | some (pool, woken) =>
    let before := t.begun id.job
    let t := { t with pool }
    let t := match (pool.thread? id).bind Thread.delay? with
      | some ms => { t with timers := t.timers ++ [(t.now + ms, id)] }
      | none => t
    let t := woken.foldl enqueue t
    (List.range' before (t.begun id.job - before)).foldl (fun t i => t.enqueue ⟨id.job, i⟩) t

/-- Jumps to a time and wakes the threads whose time it is. -/
def jump (time : Nat) (t : Timed σ) : Timed σ :=
  let due := t.timers.filter (·.1 = time)
  let t := { t with now := time, timers := t.timers.filter (·.1 ≠ time) }
  due.foldl (fun t timer => t.enqueue timer.2) t

def next? (catalog : Catalog σ) (t : Timed σ) : Option (Timed σ) :=
  match t.turns with
  | (_, []) :: turns => some { t with turns }
  | (job, thread :: threads) :: turns =>
    some ({ t with turns := (job, threads) :: turns }.resume catalog ⟨job, thread⟩)
  | [] => ((t.timers.map (·.1)).min?).map t.jump

def run (catalog : Catalog σ) : (fuel : Nat) → Timed σ → Timed σ
  | 0, t => t
  | fuel + 1, t =>
    match t.next? catalog with
    | some t => run catalog fuel t
    | none => t

/-- Jobs at the beginning: each has a turn, in order. -/
def start (world : World σ) (now : Nat) (jobs : List (Job σ)) : Timed σ :=
  { pool := ⟨world, jobs⟩
    now
    turns := (List.range jobs.length).map (·, [0]) }

end Timed
end DocQuery.Provision
