import DocQuery.Provision.World

/-! # Going on, command by command

A flow goes on as long as its commands are answered at once. Which commands are, and what they
answer and change, is said here once. What holds of a flow that goes on until it waits is then shown
of one command, and of the ways in which the flow comes to wait.

A flow that is about to wait for a lock can be held up before it does, whether the lock is free or
not. `Flow.advance` never holds a flow up, so what is shown of all ways of going on holds of more
than what it does.
-/

namespace DocQuery.Provision

open Catalog (Effect Reply Request)

structure Exchange where
  request : Request
  reply : Reply request

/-- Something that a flow does and that others can notice. -/
inductive Deed where
  | sent (r : Request)
  | heard (x : Exchange)
  | counted (c : Counter)
  | reported (e : Event)

def Command.deeds : (c : Command) → c.Answer → List Deed
  | .request r, reply => [.sent r, .heard ⟨r, reply⟩]
  | .count c, _ => [.counted c]
  | .report e, _ => [.reported e]
  | _, _ => []

section

variable {σ α : Type} (catalog : Catalog σ) (now : Nat) (place : Place) (self : ThreadId)

/-- A command that is answered at once: its answer, the world that it leaves, and the threads that
it hands a lock to. -/
inductive Command.Performs (w : World σ) :
    (c : Command) → c.Answer → World σ → List ThreadId → Prop
  | readCache : Performs w .readCache (w.caches place.cache) w []
  | changeCache (x : Cache.Change) :
      Performs w (.changeCache x) () { w with toData := w.changeCache place.cache x } []
  | count (x : Counter) :
      Performs w (.count x) () { w with toData := w.count place.site x } []
  | report (e : Event) : Performs w (.report e) () { w with toData := w.report e } []
  | catalogName : Performs w .catalogName catalog.name w []
  | request {r : Request} {reply : Reply r} :
      (catalog.submit now r w.catalog).value = .now reply →
      Performs w (.request r) reply
        { w with toData := w.absorb (catalog.submit now r w.catalog) } []
  | sleep : Performs w (.sleep 0) () w []
  | fetchLock (key : LockKey) :
      Performs w (.fetchLock key) ((w.locks place.site).fetch key).1
        (w.setLocks place.site ((w.locks place.site).fetch key).2) []
  | acquire {l : LockId} :
      ((w.locks place.site).acquire l self).1 = true →
      Performs w (.acquire l) () (w.setLocks place.site ((w.locks place.site).acquire l self).2) []
  | release (l : LockId) :
      Performs w (.release l) () (w.setLocks place.site ((w.locks place.site).release l).2)
        ((w.locks place.site).release l).1.toList
  | discard (key : LockKey) (l : LockId) :
      Performs w (.discard key l) ()
        (w.setLocks place.site ((w.locks place.site).discard key l)) []

/-- How a flow can go on until it waits, and what it does on the way. A flow that is held up does
nothing for no time, and then goes on to wait for the lock. -/
inductive Flow.Advances : Flow α → World σ → List Deed → Progress σ α → Prop
  | ended (a : α) (w : World σ) : Advances (.done a) w [] ⟨.ended a, w, []⟩
  | asleep {ms : Nat} (next : (Command.sleep ms).Answer → Flow α) (w : World σ) :
      Advances (.step (.sleep ms) next) w [] ⟨.asleep ms (next ()), w, []⟩
  | awaiting {r : Request} {ms : Nat} {finish : σ → Effect σ (Reply r)}
      (next : (Command.request r).Answer → Flow α) {w : World σ} :
      (catalog.submit now r w.catalog).value = .later ms finish →
      Advances (.step (.request r) next) w [.sent r] ⟨.awaiting ms r finish next,
        { w with toData := w.absorb (catalog.submit now r w.catalog) }, []⟩
  | queued {l : LockId} (next : (Command.acquire l).Answer → Flow α) {w : World σ} :
      ((w.locks place.site).acquire l self).1 = false →
      Advances (.step (.acquire l) next) w [] ⟨.queued l (next ()),
        w.setLocks place.site ((w.locks place.site).acquire l self).2, []⟩
  | heldUp {c : Command} {next : c.Answer → Flow α} {a : c.Answer} {l : LockId}
      {rest : (Command.acquire l).Answer → Flow α} {w w' : World σ} {woken : List ThreadId} :
      c.Performs catalog now place self w a w' woken → next a = .step (.acquire l) rest →
      Advances (.step c next) w (c.deeds a) ⟨.asleep 0 (.step (.acquire l) rest), w', woken⟩
  | step {c : Command} {next : c.Answer → Flow α} {a : c.Answer} {w w' : World σ}
      {woken : List ThreadId} {ds : List Deed} {p : Progress σ α} :
      c.Performs catalog now place self w a w' woken → Advances (next a) w' ds p →
      Advances (.step c next) w (c.deeds a ++ ds) { p with woken := woken ++ p.woken }

/-- What a flow does until it has to wait, if it is not held up. -/
def Flow.deeds : Flow α → World σ → List Deed
  | .done _, _ => []
  | .step c next, w =>
    let q := (Flow.perform c).advance catalog now place self w
    match q.pause with
    | .ended a => c.deeds a ++ deeds (next a) q.world
    | .awaiting _ r _ _ => [.sent r]
    | _ => []

variable {catalog now place self}

theorem Command.Performs.advance {c : Command} {a : c.Answer} {w w' : World σ}
    {woken : List ThreadId} (h : c.Performs catalog now place self w a w' woken)
    (next : c.Answer → Flow α) :
    (Flow.step c next).advance catalog now place self w =
        { (next a).advance catalog now place self w' with
          woken := woken ++ ((next a).advance catalog now place self w').woken } ∧
      (Flow.step c next).deeds catalog now place self w =
        c.deeds a ++ (next a).deeds catalog now place self w' := by
  cases h with
  | request hv =>
      simp only [Flow.advance, Flow.deeds, Flow.perform, hv, and_true]
      rfl
  | acquire hfree =>
      simp only [Flow.advance, Flow.deeds, Flow.perform, hfree, if_true, and_true]
      rfl
  | _ =>
      rw [Flow.deeds]
      exact ⟨rfl, rfl⟩

/-- What `Flow.advance` comes to is one way of going on. -/
theorem Flow.advances (p : Flow α) (w : World σ) :
    p.Advances catalog now place self w (p.deeds catalog now place self w)
      (p.advance catalog now place self w) := by
  induction p generalizing w with
  | done a => exact .ended a w
  | step c next ih =>
      have hstep : ∀ {a w' woken}, c.Performs catalog now place self w a w' woken →
          (Flow.step c next).Advances catalog now place self w
            ((Flow.step c next).deeds catalog now place self w)
            ((Flow.step c next).advance catalog now place self w) := fun {a w' woken} h => by
        obtain ⟨hadvance, hdeeds⟩ := h.advance next
        rw [hadvance, hdeeds]
        exact .step h (ih a w')
      cases c with
      | readCache => exact hstep .readCache
      | changeCache x => exact hstep (.changeCache x)
      | count x => exact hstep (.count x)
      | report e => exact hstep (.report e)
      | catalogName => exact hstep .catalogName
      | fetchLock key => exact hstep (.fetchLock key)
      | release l => exact hstep (.release l)
      | discard key l => exact hstep (.discard key l)
      | request r =>
          cases hv : (catalog.submit now r w.catalog).value with
          | now reply => exact hstep (.request hv)
          | later ms finish =>
              simp only [advance, deeds, perform, hv]
              exact .awaiting next hv
      | sleep ms =>
          by_cases hms : ms = 0
          · subst hms
            exact hstep .sleep
          · simp only [advance, deeds, perform, hms, if_false]
            exact .asleep next w
      | acquire l =>
          cases hfree : ((w.locks place.site).acquire l self).1 with
          | true => exact hstep (.acquire hfree)
          | false =>
              simp only [advance, deeds, perform, hfree]
              exact .queued next hfree

end

end DocQuery.Provision
