import DocQuery.Provision.Provisioner
import DocQuery.Provision.World
import Mathlib.Logic.Relation

/-! # Contracts between threads

Threads that run side by side are judged one at a time. A contract says what holds whenever all
threads wait, which changes a thread may make with one command, and what holds of a key while
nobody has its lock. A flow is safe if it keeps its side of the contract in every surrounding in
which the other threads keep theirs.

Which lock a thread has is followed by its stance. The rules for locks speak of keys only; that a
key is served by one lock at a time is shown where threads are put together.
-/

namespace DocQuery.Provision

open Catalog (Effect Reply Request)
open Relation (ReflTransGen)

/-- How a thread stands to the locks of its provisioner. -/
inductive Stance where
  | idle
  /-- It has fetched the lock that serves a key. -/
  | user (key : LockKey) (l : LockId)
  /-- It waits for the lock that serves a key. -/
  | waiting (key : LockKey) (l : LockId)
  | holder (key : LockKey) (l : LockId)
deriving DecidableEq

namespace Stance

/-- A thread that can be woken without being handed a lock. -/
def Settled : Stance → Prop
  | .waiting _ _ => False
  | _ => True

def held (place : Place) : Stance → Option (Nat × LockKey)
  | .holder key _ => some (place.site, key)
  | _ => none

@[simp] theorem settled_idle : Settled .idle := trivial

@[simp] theorem settled_user (key : LockKey) (l : LockId) : Settled (.user key l) := trivial

@[simp] theorem settled_holder (key : LockKey) (l : LockId) : Settled (.holder key l) := trivial

@[simp] theorem held_idle (place : Place) : held place .idle = none := rfl

@[simp] theorem held_user (place : Place) (key : LockKey) (l : LockId) :
    held place (.user key l) = none := rfl

@[simp] theorem held_waiting (place : Place) (key : LockKey) (l : LockId) :
    held place (.waiting key l) = none := rfl

@[simp] theorem held_holder (place : Place) (key : LockKey) (l : LockId) :
    held place (.holder key l) = some (place.site, key) := rfl

end Stance

/-- What threads owe to each other. -/
structure Contract (σ : Type) where
  /-- What holds whenever all threads wait. -/
  inv : Data σ → Prop
  /-- What one command may change, by the key whose lock the thread holds. -/
  change : Option (Nat × LockKey) → Data σ → Data σ → Prop
  /-- What holds of a key while nobody holds its lock. -/
  atRest : Nat × LockKey → Data σ → Prop
  atRest_change : ∀ {held key d d'}, change held d d' → held ≠ some key → atRest key d →
    atRest key d'

namespace Contract

variable {σ : Type}

/-- What others do while a thread holds the lock of a key, or none: a sequence of changes, none of
which is made by a thread that holds that same lock. -/
def Rely (C : Contract σ) (held : Option (Nat × LockKey)) : Data σ → Data σ → Prop :=
  ReflTransGen fun d d' => ∃ other, (held = none ∨ other ≠ held) ∧ C.change other d d'

variable {C : Contract σ} {held : Option (Nat × LockKey)} {d d' d'' : Data σ}

theorem Rely.refl : C.Rely held d d := ReflTransGen.refl

theorem Rely.trans (h : C.Rely held d d') (h' : C.Rely held d' d'') : C.Rely held d d'' :=
  ReflTransGen.trans h h'

theorem Rely.single {other : Option (Nat × LockKey)} (ho : held = none ∨ other ≠ held)
    (h : C.change other d d') : C.Rely held d d' :=
  ReflTransGen.single ⟨other, ho, h⟩

/-- Who holds no lock has to reckon with every change. -/
theorem Rely.weaken (h : C.Rely held d d') : C.Rely none d d' :=
  ReflTransGen.mono (fun _ _ hc => hc.elim fun other h => ⟨other, Or.inl rfl, h.2⟩) _ _ h

theorem Rely.keeps {P : Data σ → Prop} (h : C.Rely held d d')
    (step : ∀ other d d', (held = none ∨ other ≠ held) → C.change other d d' → P d → P d')
    (hd : P d) : P d' := by
  induction h with
  | refl => exact hd
  | tail _ hc ih =>
      obtain ⟨other, ho, hc⟩ := hc
      exact step other _ _ ho hc ih

theorem Rely.atRest {key : Nat × LockKey} (h : C.Rely (some key) d d') (hd : C.atRest key d) :
    C.atRest key d' :=
  h.keeps (P := C.atRest key)
    (fun other _ _ ho hc => C.atRest_change hc (ho.resolve_left (by simp))) hd

end Contract

namespace Flow

variable {σ α β : Type}

/-- A flow that keeps a contract from a state on, whatever the other threads do meanwhile, and that
ends as `Q` says. At each point where the flow waits, the invariant of the contract holds, and the
flow goes on from any state that the others may have left. -/
def Safe (C : Contract σ) (catalog : Catalog σ) (place : Place)
    (Q : Stance → α → Data σ → Prop) : Flow α → Stance → Data σ → Prop
  | .done a, s, d => Q s a d
  | .step .readCache next, s, d => Safe C catalog place Q (next (d.caches place.cache)) s d
  | .step (.changeCache c) next, s, d =>
    C.change (s.held place) d (d.changeCache place.cache c) ∧
      Safe C catalog place Q (next ()) s (d.changeCache place.cache c)
  | .step (.count c) next, s, d =>
    C.change (s.held place) d (d.count place.site c) ∧
      Safe C catalog place Q (next ()) s (d.count place.site c)
  | .step (.report e) next, s, d =>
    C.change (s.held place) d (d.report e) ∧ Safe C catalog place Q (next ()) s (d.report e)
  | .step .catalogName next, s, d => Safe C catalog place Q (next catalog.name) s d
  | .step (.request r) next, s, d =>
    s.Settled ∧ ∀ now,
      let e := catalog.submit now r d.catalog
      C.change (s.held place) d (d.absorb e) ∧
        match e.value with
        | .now reply => Safe C catalog place Q (next reply) s (d.absorb e)
        | .later _ finish =>
          C.inv (d.absorb e) ∧ ∀ d', C.Rely (s.held place) (d.absorb e) d' → C.inv d' →
            C.change (s.held place) d' (d'.absorb (finish d'.catalog)) ∧
              Safe C catalog place Q (next (finish d'.catalog).value) s
                (d'.absorb (finish d'.catalog))
  | .step (.sleep _) next, s, d =>
    s.Settled ∧ C.inv d ∧
      ∀ d', C.Rely (s.held place) d d' → C.inv d' → Safe C catalog place Q (next ()) s d'
  | .step (.fetchLock key) next, s, d =>
    s = .idle ∧ ∀ l, Safe C catalog place Q (next l) (.user key l) d
  | .step (.acquire l) next, s, d =>
    ∃ key, s = .user key l ∧ C.inv d ∧
      ∀ d', C.Rely none d d' → C.inv d' → C.atRest (place.site, key) d' →
        Safe C catalog place Q (next ()) (.holder key l) d'
  | .step (.release l) next, s, d =>
    ∃ key, s = .holder key l ∧ C.atRest (place.site, key) d ∧
      Safe C catalog place Q (next ()) (.user key l) d
  | .step (.discard key l) next, s, d =>
    s = .user key l ∧ Safe C catalog place Q (next ()) .idle d

variable {C : Contract σ} {catalog : Catalog σ} {place : Place}

/-- Flows one after the other: the second is safe wherever the first ends. -/
theorem safe_bind {Q : Stance → β → Data σ → Prop} (p : Flow α) (f : α → Flow β) (s : Stance)
    (d : Data σ) : (p.bind f).Safe C catalog place Q s d ↔
      p.Safe C catalog place (fun s a d => (f a).Safe C catalog place Q s d) s d := by
  induction p generalizing s d with
  | done a => rfl
  | step c next ih =>
      cases c with
      | readCache => exact ih _ _ _
      | catalogName => exact ih _ _ _
      | changeCache c => exact and_congr_right fun _ => ih _ _ _
      | count c => exact and_congr_right fun _ => ih _ _ _
      | report e => exact and_congr_right fun _ => ih _ _ _
      | discard key l => exact and_congr_right fun _ => ih _ _ _
      | fetchLock key => exact and_congr_right fun _ => forall_congr' fun l => ih _ _ _
      | sleep ms =>
          exact and_congr_right fun _ => and_congr_right fun _ =>
            forall_congr' fun d' => imp_congr_right fun _ => imp_congr_right fun _ => ih _ _ _
      | acquire l =>
          exact exists_congr fun key => and_congr_right fun _ => and_congr_right fun _ =>
            forall_congr' fun d' => imp_congr_right fun _ => imp_congr_right fun _ =>
              imp_congr_right fun _ => ih _ _ _
      | release l =>
          exact exists_congr fun key => and_congr_right fun _ => and_congr_right fun _ => ih _ _ _
      | request r =>
          refine and_congr_right fun _ => forall_congr' fun now => and_congr_right fun _ => ?_
          cases (catalog.submit now r d.catalog).value with
          | now reply => exact ih _ _ _
          | later ms finish =>
              exact and_congr_right fun _ => forall_congr' fun d' => imp_congr_right fun _ =>
                imp_congr_right fun _ => and_congr_right fun _ => ih _ _ _

theorem Safe.mono {Q Q' : Stance → α → Data σ → Prop} {p : Flow α} {s : Stance} {d : Data σ}
    (h : p.Safe C catalog place Q s d) (hQ : ∀ s a d, Q s a d → Q' s a d) :
    p.Safe C catalog place Q' s d := by
  induction p generalizing s d with
  | done a => exact hQ _ _ _ h
  | step c next ih =>
      cases c with
      | readCache => exact ih _ h
      | catalogName => exact ih _ h
      | changeCache c => exact ⟨h.1, ih _ h.2⟩
      | count c => exact ⟨h.1, ih _ h.2⟩
      | report e => exact ⟨h.1, ih _ h.2⟩
      | sleep ms => exact ⟨h.1, h.2.1, fun d' hr hi => ih _ (h.2.2 d' hr hi)⟩
      | fetchLock key => exact ⟨h.1, fun l => ih _ (h.2 l)⟩
      | discard key l => exact ⟨h.1, ih _ h.2⟩
      | acquire l =>
          obtain ⟨key, hs, hi, hn⟩ := h
          exact ⟨key, hs, hi, fun d' hr hi ha => ih _ (hn d' hr hi ha)⟩
      | release l =>
          obtain ⟨key, hs, ha, hn⟩ := h
          exact ⟨key, hs, ha, ih _ hn⟩
      | request r =>
          refine ⟨h.1, fun now => ⟨(h.2 now).1, ?_⟩⟩
          have hn := (h.2 now).2
          revert hn
          cases (catalog.submit now r d.catalog).value with
          | now reply => exact ih _
          | later ms finish =>
              intro hn
              exact ⟨hn.1, fun d' hr hi => ⟨(hn.2 d' hr hi).1, ih _ (hn.2 d' hr hi).2⟩⟩

/-- A flow that is about to wait for a lock can do so in whatever state the others leave. -/
theorem Safe.heldUp {Q : Stance → α → Data σ → Prop} {l : LockId}
    {next : (Command.acquire l).Answer → Flow α} {s : Stance} {d d' : Data σ}
    (h : (Flow.step (.acquire l) next).Safe C catalog place Q s d)
    (hr : C.Rely (s.held place) d d') (hi : C.inv d') :
    (Flow.step (.acquire l) next).Safe C catalog place Q s d' := by
  obtain ⟨key, rfl, -, hn⟩ := h
  exact ⟨key, rfl, hi, fun d'' hr' => hn d'' (Contract.Rely.trans hr hr')⟩

section

variable {Q : Stance → α → Data σ → Prop} {s : Stance} {d : Data σ}

theorem safe_pure {a : α} (h : Q s a d) : (pure a : Flow α).Safe C catalog place Q s d := h

theorem safe_seq {p : Flow β} {f : β → Flow α}
    (h : p.Safe C catalog place (fun s b d => (f b).Safe C catalog place Q s d) s d) :
    (p >>= f).Safe C catalog place Q s d :=
  (safe_bind p f s d).2 h

theorem safe_readCache {f : Cache → Flow α}
    (h : (f (d.caches place.cache)).Safe C catalog place Q s d) :
    (readCache >>= f).Safe C catalog place Q s d := h

theorem safe_changeCache {c : Cache.Change} {f : Unit → Flow α}
    (hc : C.change (s.held place) d (d.changeCache place.cache c))
    (h : (f ()).Safe C catalog place Q s (d.changeCache place.cache c)) :
    (changeCache c >>= f).Safe C catalog place Q s d := ⟨hc, h⟩

theorem safe_count {c : Counter} {f : Unit → Flow α}
    (hc : C.change (s.held place) d (d.count place.site c))
    (h : (f ()).Safe C catalog place Q s (d.count place.site c)) :
    (count c >>= f).Safe C catalog place Q s d := ⟨hc, h⟩

theorem safe_report {e : Event} {f : Unit → Flow α}
    (hc : C.change (s.held place) d (d.report e))
    (h : (f ()).Safe C catalog place Q s (d.report e)) :
    (report e >>= f).Safe C catalog place Q s d := ⟨hc, h⟩

theorem safe_catalogName {f : String → Flow α}
    (h : (f catalog.name).Safe C catalog place Q s d) :
    (catalogName >>= f).Safe C catalog place Q s d := h

theorem safe_fetchLock {key : LockKey} {f : LockId → Flow α}
    (h : ∀ l, (f l).Safe C catalog place Q (.user key l) d) :
    (fetchLock key >>= f).Safe C catalog place Q .idle d := ⟨rfl, h⟩

/-- A wait for a lock, and what follows once it is held and its key is at rest. -/
theorem safe_acquire {key : LockKey} {l : LockId} {f : Unit → Flow α} (hi : C.inv d)
    (h : ∀ d', C.Rely none d d' → C.inv d' → C.atRest (place.site, key) d' →
      (f ()).Safe C catalog place Q (.holder key l) d') :
    (acquire l >>= f).Safe C catalog place Q (.user key l) d := ⟨key, rfl, hi, h⟩

theorem safe_release {key : LockKey} {l : LockId} {f : Unit → Flow α}
    (ha : C.atRest (place.site, key) d) (h : (f ()).Safe C catalog place Q (.user key l) d) :
    (release l >>= f).Safe C catalog place Q (.holder key l) d := ⟨key, rfl, ha, h⟩

theorem safe_discard {key : LockKey} {l : LockId} {f : Unit → Flow α}
    (h : (f ()).Safe C catalog place Q .idle d) :
    (discard key l >>= f).Safe C catalog place Q (.user key l) d := ⟨rfl, h⟩

theorem safe_sleep {delay : Duration} {f : Unit → Flow α} (hs : s.Settled) (hi : C.inv d)
    (h : ∀ d', C.Rely (s.held place) d d' → C.inv d' → (f ()).Safe C catalog place Q s d') :
    (sleep delay >>= f).Safe C catalog place Q s d := ⟨hs, hi, h⟩

end

end Flow
end DocQuery.Provision
