import DocQuery.Proofs.Provision.Commands
import DocQuery.Proofs.Provision.Pools

/-! # One thread at a time

A thread is inside the locked part of providing a function if what remains of it is some rest of
that part, followed by giving the lock back. In a pool whose jobs do their duties, no two threads of
one provisioner are inside for the same function at the same time, however they got there.
-/

namespace DocQuery.Provision

variable {σ α β : Type} {C : Contract σ} {catalog : Catalog σ} {place : Place}

namespace Flow

/-- What remains of a flow after some of its commands were answered. -/
inductive Rest (p : Flow α) : Flow α → Prop
  | start : Rest p p
  | step {c : Command} {next : c.Answer → Flow α} (a : c.Answer) :
      Rest p (.step c next) → Rest p (next a)

def Lockless : Flow α → Prop
  | .done _ => True
  | .step c next => c.locks = false ∧ ∀ a, Lockless (next a)

theorem Every.lockless {p : Flow α} {Q : α → Prop} {k : Container}
    (h : p.Every (Command.Stores k) Q) : p.Lockless := by
  induction p with
  | done a => trivial
  | step c next ih => exact ⟨h.1.locks_eq, fun a => ih a (h.2 a)⟩

theorem Lockless.rest {p q : Flow α} (h : p.Lockless) (hr : Rest p q) : q.Lockless := by
  induction hr with
  | start => exact h
  | step a _ ih => exact ih.2 a

theorem Lockless.safe_end {p : Flow α} (hp : p.Lockless) {f : α → Flow β}
    {Q : Stance → β → Data σ → Prop} {s : Stance} {d : Data σ}
    (h : (p.bind f).Safe C catalog place Q s d) :
    ∃ a d', (f a).Safe C catalog place Q s d' := by
  induction p generalizing d with
  | done a => exact ⟨a, d, h⟩
  | step c next ih =>
      cases c with
      | readCache => exact ih _ (hp.2 _) h
      | catalogName => exact ih _ (hp.2 _) h
      | changeCache c => exact ih _ (hp.2 _) h.2
      | count c => exact ih _ (hp.2 _) h.2
      | report e => exact ih _ (hp.2 _) h.2
      | sleep ms => exact ih _ (hp.2 _) (h.2.2 d .refl h.2.1)
      | request r =>
          have hn := (h.2 0).2
          revert hn
          cases (catalog.submit 0 r d.catalog).value with
          | now reply => exact fun hn => ih _ (hp.2 _) hn
          | later ms finish => exact fun hn => ih _ (hp.2 _) (hn.2 _ .refl hn.1).2
      | fetchLock key => cases hp.1
      | acquire l => cases hp.1
      | release l => cases hp.1
      | discard key l => cases hp.1

end Flow

namespace Provisioner

def leave (key : LockKey) (l : LockId) (o : Outcome) : Flow Outcome := do
  Flow.release l
  Flow.discard key l
  return o

def Locked (p : Provisioner) (k : Container) (f : Requirement) (q : Flow Outcome) : Prop :=
  ∃ l q', Flow.Rest (p.ensureLocked k f) q' ∧ q = q'.bind (leave (k, f.id) l)

/-- Who is about to give a lock back holds it. -/
theorem Locked.holder {p : Provisioner} {k : Container} {f : Requirement} {q : Flow Outcome}
    (h : p.Locked k f q) {Q : Stance → Outcome → Data σ → Prop} {s : Stance} {d : Data σ}
    (hs : q.Safe C catalog place Q s d) : ∃ l, s = .holder (k, f.id) l := by
  obtain ⟨l, q', hrest, rfl⟩ := h
  obtain ⟨o, d', hleave⟩ := ((p.ensureLocked_stores k f).lockless.rest hrest).safe_end hs
  obtain ⟨key, rfl, -, hdiscard⟩ := hleave
  obtain ⟨hkey, -⟩ := hdiscard
  obtain ⟨rfl, -⟩ := Stance.user.inj hkey
  exact ⟨l, rfl⟩

end Provisioner

/-- A thread in the midst of providing a function while its lock is held. -/
def Thread.Inside (p : Provisioner) (k : Container) (f : Requirement) : Thread σ → Prop
  | .ready q => p.Locked k f q
  | .paused (.asleep _ q) => p.Locked k f q
  | .paused (.awaiting _ _ _ next) => ∀ reply, p.Locked k f (next reply)
  | .paused (.queued _ _) => False
  | .paused (.ended _) => False

theorem Thread.Inside.holder {p : Provisioner} {k : Container} {f : Requirement} {x : Thread σ}
    (h : x.Inside p k f) {Q : Outcome → Data σ → Prop} {s : Stance} {d : Data σ}
    (hi : C.inv d) (hs : x.Safe C catalog place Q s d) : ∃ l, s = .holder (k, f.id) l := by
  match x with
  | .ready q => exact Provisioner.Locked.holder h (hs.2 d .refl hi)
  | .paused (.asleep _ q) => exact Provisioner.Locked.holder h (hs.2 d .refl hi)
  | .paused (.awaiting _ _ _ next) => exact Provisioner.Locked.holder (h _) (hs.2 d .refl hi).2
  | .paused (.queued _ _) => exact h.elim
  | .paused (.ended _) => exact h.elim

/-- At one provisioner no two threads are inside for the same function. -/
theorem Pool.Safe.inside_unique {D : Nat → Duty C catalog} {stance : ThreadId → Stance}
    {pool : Pool σ} (h : pool.Safe D stance) {id id' : ThreadId} {x x' : Thread σ}
    {p p' : Provisioner} {k : Container} {f f' : Requirement}
    (hx : pool.thread? id = some x) (hx' : pool.thread? id' = some x')
    (hplace : (D id.job).place.site = (D id'.job).place.site) (hid : f.id = f'.id)
    (hin : x.Inside p k f) (hin' : x'.Inside p' k f') : id = id' := by
  have hholder : ∀ {id : ThreadId} {x : Thread σ} {p : Provisioner} {f : Requirement},
      pool.thread? id = some x → x.Inside p k f → ∃ l, stance id = .holder (k, f.id) l := by
    intro id x p f hx hin
    obtain ⟨t, ht, hx⟩ := Option.bind_eq_some_iff.1 hx
    exact hin.holder h.inv ((h.jobs _ t ht).1.safe hx)
  obtain ⟨l, hl⟩ := hholder hx hin
  obtain ⟨l', hl'⟩ := hholder hx' hin'
  rw [← hid] at hl'
  exact h.orderly.exclusive hl hl' hplace

end DocQuery.Provision
