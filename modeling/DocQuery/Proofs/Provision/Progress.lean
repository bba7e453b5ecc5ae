import DocQuery.Proofs.Cache
import DocQuery.Proofs.Provision.Pools

/-! # Progress

A pool whose jobs do their duties never comes to a standstill before all jobs are finished: a thread
that waits for a lock waits for one that can go on. And it cannot go on forever, since a flow waits
only so many times whatever answers it gets. Both together mean that every job finishes once its
threads are let go on.
-/

namespace DocQuery.Provision

variable {σ α β : Type} {C : Contract σ} {catalog : Catalog σ}

/-! ## No standstill -/

namespace Thread

theorem wake?_eq_none {x : Thread σ} {w : World σ} (h : x.wake? w = none) :
    x.outcome? ≠ none ∨ ∃ l p, x = .paused (.queued l p) := by
  match x with
  | .ready _ => simp [wake?] at h
  | .paused (.asleep _ _) => simp [wake?] at h
  | .paused (.awaiting _ _ _ _) => simp [wake?] at h
  | .paused (.ended _) => exact Or.inl (by simp [outcome?])
  | .paused (.queued l p) => exact Or.inr ⟨l, p, rfl⟩

/-- A thread that holds a lock can go on. -/
theorem Safe.wake_of_holder {x : Thread σ} {place : Place} {Q : Outcome → Data σ → Prop}
    {key : LockKey} {l : LockId} {d : Data σ} (h : x.Safe C catalog place Q (.holder key l) d)
    (w : World σ) : x.wake? w ≠ none := by
  intro hn
  match x with
  | .ready _ => simp [wake?] at hn
  | .paused (.asleep _ _) => simp [wake?] at hn
  | .paused (.awaiting _ _ _ _) => simp [wake?] at hn
  | .paused (.ended _) => cases h.1
  | .paused (.queued l p) =>
      obtain ⟨key', hs, -⟩ := h
      cases hs

end Thread

namespace Pool

variable {D : Nat → Duty C catalog} {stance : ThreadId → Stance} {p p' : Pool σ}

theorem wake?_of_resume?_eq_none {now : Nat} {id : ThreadId} {t : Job σ} {x : Thread σ}
    (h : p.resume? catalog now id = none) (ht : p.jobs[id.job]? = some t)
    (hx : t.threads[id.thread]? = some x) : x.wake? p.world = none := by
  cases hw : x.wake? p.world with
  | none => rfl
  | some r => simp [resume?, ht, hx, hw] at h

/-- A pool in which no thread can go on is finished. -/
theorem Safe.finished_of_stuck (h : p.Safe D stance) {now : Nat}
    (hstuck : ∀ id, p.resume? catalog now id = none) : ∀ t ∈ p.jobs, t.isFinished = true := by
  have hwake : ∀ (i n : Nat) (t : Job σ) (x : Thread σ), p.jobs[i]? = some t →
      t.threads[n]? = some x → x.wake? p.world = none := fun i n t x ht hx =>
    wake?_of_resume?_eq_none (hstuck ⟨i, n⟩) ht hx
  intro t ht
  obtain ⟨i, hi⟩ := List.mem_iff_getElem?.1 ht
  obtain ⟨hhon, htidy⟩ := h.jobs i t hi
  refine htidy.finished fun n x hx => ?_
  rcases Thread.wake?_eq_none (hwake i n t x hi hx) with ho | ⟨l, q, rfl⟩
  · exact ho
  · -- The lock that the thread waits for is held by a thread that can go on.
    exfalso
    obtain ⟨key, hst, -⟩ := hhon.safe hx
    have hlined := (h.orderly.locks (D i).place.site).lined
    have hwaits : (⟨i, n⟩ : ThreadId) ∈ ((p.world.locks (D i).place.site).locks l).waiting :=
      (hlined.waiting l ⟨i, n⟩).2 (by simp [atSite, hst])
    cases hh : ((p.world.locks (D i).place.site).locks l).holder with
    | none => simp [hlined.free l hh] at hwaits
    | some id =>
        obtain ⟨key', hst'⟩ := Stance.eq_holder_of_holds? ((hlined.holder l id).1 hh)
        have hid : stance id = .holder key' l := by
          simp only [atSite] at hst'
          split at hst'
          · exact hst'
          · cases hst'
        have hbusy : stance id ≠ .idle := by simp [hid]
        obtain ⟨t', x', ht', hx', hsafe⟩ := h.thread hbusy
        rw [hid] at hsafe
        exact hsafe.wake_of_holder p.world (hwake _ _ _ _ ht' hx')

end Pool

/-! ## Bounded runs -/

/-- How often a flow may have to wait at a command. Before it waits for a lock it can be held up. -/
def Command.waits : Command → Nat
  | .request _ => 1
  | .sleep _ => 1
  | .acquire _ => 2
  | _ => 0

namespace Flow

/-- A flow that waits at most `n` times whatever answers it gets, where ending with a value counts
as often as `cost` says. -/
def Within (cost : α → Nat) : Flow α → Nat → Prop
  | .done a, n => cost a ≤ n
  | .step c next, n => ∃ m, n = c.waits + m ∧ ∀ a, Within cost (next a) m

theorem Within.le {cost : α → Nat} {p : Flow α} {m n : Nat} (h : p.Within cost m) (hle : m ≤ n) :
    p.Within cost n := by
  induction p generalizing m n with
  | done a => exact Nat.le_trans h hle
  | step c next ih =>
      obtain ⟨m, rfl, hm⟩ := h
      exact ⟨n - c.waits, by omega, fun a => ih a (hm a) (by omega)⟩

theorem Within.next {cost : α → Nat} {c : Command} {next : c.Answer → Flow α} {n : Nat}
    (h : (Flow.step c next).Within cost n) (a : c.Answer) : (next a).Within cost n := by
  obtain ⟨m, rfl, hm⟩ := h
  exact (hm a).le (by omega)

/-- Flows one after the other: the end of the first counts as much as the second needs. -/
theorem Within.bind {cost : α → Nat} {cost' : β → Nat} {p : Flow α} {f : α → Flow β} {n : Nat}
    (h : p.Within cost n) (hf : ∀ a, (f a).Within cost' (cost a)) : (p.bind f).Within cost' n := by
  induction p generalizing n with
  | done a => exact (hf a).le h
  | step c next ih =>
      obtain ⟨m, rfl, hm⟩ := h
      exact ⟨m, rfl, fun a => ih a (hm a)⟩

section

variable {cost : α → Nat} {n : Nat}

theorem within_step {c : Command} {next : c.Answer → Flow α} (hc : c.waits = 0)
    (h : ∀ a, (next a).Within cost n) : (Flow.step c next).Within cost n :=
  ⟨n, by omega, h⟩

theorem within_readCache {f : Cache → Flow α} (h : ∀ c, (f c).Within cost n) :
    (readCache >>= f).Within cost n := within_step rfl h

theorem within_changeCache {c : Cache.Change} {f : Unit → Flow α} (h : (f ()).Within cost n) :
    (changeCache c >>= f).Within cost n := within_step rfl fun _ => h

theorem within_count {c : Counter} {f : Unit → Flow α} (h : (f ()).Within cost n) :
    (count c >>= f).Within cost n := within_step rfl fun _ => h

theorem within_report {e : Event} {f : Unit → Flow α} (h : (f ()).Within cost n) :
    (report e >>= f).Within cost n := within_step rfl fun _ => h

end

/-- How often a flow can have been held up before its first command. -/
def holdUps : Flow α → Nat
  | .step (.acquire _) _ => 1
  | _ => 0

end Flow

/-- How often a flow that waits goes on at most. One that was held up is not held up again. -/
def Pause.Within (cost : α → Nat) : Pause σ α → Nat → Prop
  | .ended a, n => cost a ≤ n
  | .asleep _ p, n => ∃ m, n = m + 1 ∧ p.Within cost (m + p.holdUps)
  | .awaiting _ _ _ next, n => ∃ m, n = m + 1 ∧ ∀ reply, (next reply).Within cost m
  | .queued _ p, n => ∃ m, n = m + 1 ∧ p.Within cost m

theorem Pause.Within.le {cost : α → Nat} {x : Pause σ α} {m n : Nat} (h : x.Within cost m)
    (hle : m ≤ n) : x.Within cost n := by
  cases x with
  | ended a => exact Nat.le_trans h hle
  | asleep ms p =>
      obtain ⟨m, rfl, hm⟩ := h
      exact ⟨n - 1, by omega, hm.le (by omega)⟩
  | awaiting ms r finish next =>
      obtain ⟨m, rfl, hm⟩ := h
      exact ⟨n - 1, by omega, fun reply => (hm reply).le (by omega)⟩
  | queued l p =>
      obtain ⟨m, rfl, hm⟩ := h
      exact ⟨n - 1, by omega, hm.le (by omega)⟩

theorem Flow.Within.heldUp {cost : α → Nat} {l : LockId}
    {next : (Command.acquire l).Answer → Flow α} {n : Nat}
    (h : (Flow.step (.acquire l) next).Within cost n) :
    Pause.Within cost (.asleep 0 (.step (.acquire l) next) : Pause σ α) n := by
  have hpos : 0 < n := by
    obtain ⟨m, rfl, -⟩ := h
    simp only [Command.waits]
    omega
  refine ⟨n - 1, by omega, ?_⟩
  rw [holdUps, Nat.sub_add_cancel hpos]
  exact h

namespace Flow.Advances

variable {cost : α → Nat} {now : Nat} {place : Place} {id : ThreadId} {p : Flow α} {w : World σ}
  {ds : List Deed} {q : Progress σ α} {n : Nat}

theorem within (h : p.Advances catalog now place id w ds q) (hp : p.Within cost n) :
    q.pause.Within cost n := by
  induction h with
  | ended a w => exact hp
  | asleep next w =>
      obtain ⟨m, rfl, hm⟩ := hp
      exact ⟨m, Nat.add_comm 1 m, (hm ()).le (by omega)⟩
  | awaiting next _ =>
      obtain ⟨m, rfl, hm⟩ := hp
      exact ⟨m, Nat.add_comm 1 m, hm⟩
  | queued next _ =>
      obtain ⟨m, rfl, hm⟩ := hp
      exact ⟨m + 1, Nat.add_comm 2 m, (hm ()).le (by omega)⟩
  | @heldUp _ _ a _ _ _ _ _ _ hlock =>
      have hnext := hp.next a
      rw [hlock] at hnext
      exact hnext.heldUp
  | step _ _ ih => exact ih (hp.next _)

theorem within_woken (h : p.Advances catalog now place id w ds q)
    (hp : p.Within cost (n + p.holdUps)) : q.pause.Within cost n := by
  match p, hp with
  | .step (.acquire l) next, ⟨m, hm, hnext⟩ =>
      have hn : n = m + 1 := by
        simp only [holdUps, Command.waits] at hm
        omega
      cases h with
      | queued _ _ => exact ⟨m, hn, hnext ()⟩
      | @heldUp _ _ a _ _ _ _ _ _ hlock =>
          have hlocked := hnext a
          rw [hlock] at hlocked
          exact hlocked.heldUp.le (by omega)
      | step _ hrest => exact (hrest.within (hnext ())).le (by omega)
  | .done a, hp => exact h.within hp
  | .step .readCache next, hp => exact h.within hp
  | .step .catalogName next, hp => exact h.within hp
  | .step (.changeCache _) next, hp => exact h.within hp
  | .step (.count _) next, hp => exact h.within hp
  | .step (.report _) next, hp => exact h.within hp
  | .step (.request _) next, hp => exact h.within hp
  | .step (.sleep _) next, hp => exact h.within hp
  | .step (.fetchLock _) next, hp => exact h.within hp
  | .step (.release _) next, hp => exact h.within hp
  | .step (.discard _ _) next, hp => exact h.within hp

end Flow.Advances

namespace Thread

def Within (cost : Outcome → Nat) : Thread σ → Nat → Prop
  | .ready p, n => ∃ m, n = m + 1 ∧ p.Within cost m
  | .paused x, n => x.Within cost n

variable {cost : Outcome → Nat} {x : Thread σ} {n : Nat}

theorem Within.grant (h : x.Within cost n) : x.grant.Within cost n := by
  rcases x.grant_cases with hg | ⟨l, p, rfl, hg⟩
  · rwa [hg]
  · exact h

theorem Within.wake (h : x.Within cost n) {w w' : World σ} {p : Flow Outcome}
    (hw : x.wake? w = some (p, w')) : ∃ m, n = m + 1 ∧ p.Within cost (m + p.holdUps) := by
  rcases wake?_eq_some hw with ⟨rfl, -⟩ | ⟨ms, rfl, -⟩ | ⟨ms, r, finish, next, rfl, rfl, -⟩
  · obtain ⟨m, rfl, hn⟩ := h
    exact ⟨m, rfl, hn.le (by omega)⟩
  · exact h
  · obtain ⟨m, rfl, hn⟩ := h
    exact ⟨m, rfl, (hn _).le (by omega)⟩

end Thread

/-- A budget shared out so that every element of a list has what it needs. -/
def Shares (needs : α → Nat → Prop) : List α → Nat → Prop
  | [], n => n = 0
  | x :: xs, n => ∃ a b, n = a + b ∧ needs x a ∧ Shares needs xs b

namespace Shares

variable {needs : α → Nat → Prop} {xs ys : List α} {m n : Nat}

theorem append (h : Shares needs xs m) (h' : Shares needs ys n) :
    Shares needs (xs ++ ys) (m + n) := by
  induction xs generalizing m with
  | nil =>
      obtain rfl : m = 0 := h
      rwa [Nat.zero_add]
  | cons x xs ih =>
      obtain ⟨a, b, rfl, hx, hxs⟩ := h
      exact ⟨a, b + n, by omega, hx, ih hxs⟩

theorem map_const {f : β → α} {c : Nat} {ys : List β} (h : ∀ y ∈ ys, needs (f y) c) :
    Shares needs (ys.map f) (ys.length * c) := by
  induction ys with
  | nil => exact Nat.zero_mul c
  | cons y ys ih =>
      refine ⟨c, ys.length * c, ?_, h y (by simp), ih fun y hy => h y (by simp [hy])⟩
      rw [List.length_cons, Nat.succ_mul, Nat.add_comm]

theorem mapIdx {f : Nat → α → α} (h : Shares needs xs n)
    (hf : ∀ (i : Nat) (x : α) (a : Nat), xs[i]? = some x → needs x a → needs (f i x) a) :
    Shares needs (xs.mapIdx f) n := by
  induction xs generalizing n f with
  | nil => exact h
  | cons x xs ih =>
      obtain ⟨a, b, rfl, hx, hxs⟩ := h
      rw [List.mapIdx_cons]
      exact ⟨a, b, rfl, hf 0 x a rfl hx, ih hxs fun i y c hy => hf (i + 1) y c (by simpa using hy)⟩

theorem mapIdx_less {f : Nat → α → α} (h : Shares needs xs n) {i : Nat} {x : α}
    (hx : xs[i]? = some x) (hless : ∀ a, needs x a → ∃ b, a = b + 1 ∧ needs (f i x) b)
    (hf : ∀ (j : Nat) (y : α) (a : Nat), j ≠ i → xs[j]? = some y → needs y a → needs (f j y) a) :
    ∃ m, n = m + 1 ∧ Shares needs (xs.mapIdx f) m := by
  induction xs generalizing n f i with
  | nil => simp at hx
  | cons y xs ih =>
      obtain ⟨a, b, rfl, hy, hxs⟩ := h
      rw [List.mapIdx_cons]
      cases i with
      | zero =>
          obtain rfl : y = x := by simpa using hx
          obtain ⟨c, rfl, hc⟩ := hless a hy
          refine ⟨c + b, by omega, c, b, rfl, hc, hxs.mapIdx fun j z d hz => ?_⟩
          exact hf (j + 1) z d (by omega) (by simpa using hz)
      | succ i =>
          obtain ⟨c, rfl, hc⟩ := ih (f := fun j => f (j + 1)) hxs (by simpa using hx) hless
            fun j z d hj hz => hf (j + 1) z d (by omega) (by simpa using hz)
          exact ⟨a + c, by omega, a, c, rfl, hf 0 y a (by omega) rfl hy, hc⟩

end Shares

/-- A policy with so many tries left waits for each of them, and before each but the first. -/
theorem runAux_within {ε γ : Type} (policy : RetryPolicy) {act : Flow (Except ε γ)}
    {retryable : ε → Flow Bool} {onRetry : ε → Nat → Flow Unit}
    (hact : ∀ k, act.Within (fun _ => k) (k + 1))
    (hretryable : ∀ e k, (retryable e).Within (fun _ => k) k)
    (honRetry : ∀ e n k, (onRetry e n).Within (fun _ => k) k) (left attempt k : Nat) :
    (policy.runAux act retryable onRetry Flow.sleep left attempt).Within (fun _ => k)
      (2 * left + 1 + k) := by
  induction left generalizing attempt with
  | zero =>
      refine ((hact k).le (by omega)).bind fun r => ?_
      cases r with
      | ok a => exact Nat.le_refl k
      | error e =>
          refine (hretryable e k).bind fun b => ?_
          cases b <;> exact Nat.le_refl k
  | succ left ih =>
      refine ((hact (2 * left + 2 + k)).le (by omega)).bind fun r => ?_
      cases r with
      | ok a => exact (by omega : k ≤ 2 * left + 2 + k)
      | error e =>
          refine (hretryable e (2 * left + 2 + k)).bind fun b => ?_
          cases b with
          | false => exact (by omega : k ≤ 2 * left + 2 + k)
          | true =>
              refine (honRetry e (attempt + 1) (2 * left + 2 + k)).bind fun _ => ?_
              refine ⟨2 * left + 1 + k, ?_, fun _ => ih (attempt + 1)⟩
              simp only [Command.waits]
              omega

namespace Provisioner

/-- How often sending a request waits at most: for every try, and after every try but the last. -/
def persistWaits (p : Provisioner) : Nat := 2 * p.settings.retryPolicy.maxAttempts - 1

/-- How often providing a function waits at most: before its lock and for it, for the create, and
for a listing. -/
def ensureWaits (p : Provisioner) : Nat := 2 * p.persistWaits + 2

def cost (p : Provisioner) (o : Outcome) : Nat := (o.toOption.getD []).length * (p.ensureWaits + 1)

theorem cost_ok_le (p : Provisioner) (n : Nat) : p.cost (.ok []) ≤ n := by
  simp [cost, Except.toOption]

theorem cost_error_le (p : Provisioner) (e : Error) (n : Nat) : p.cost (.error e) ≤ n := by
  simp [cost, Except.toOption]

theorem persist_within (p : Provisioner) (operation : Operation) (counter : Option Counter)
    (r : Catalog.Request) (k : Nat) :
    (p.persist operation counter r).Within (fun _ => k) (p.persistWaits + k) := by
  have hattempts : 1 ≤ p.settings.retryPolicy.maxAttempts := Nat.le_max_right _ _
  refine ((runAux_within p.settings.retryPolicy ?_ ?_ ?_
    (p.settings.retryPolicy.maxAttempts - 1) 0 k).le ?_).bind fun a => Nat.le_refl k
  · intro k
    have hask : (Flow.request r).Within (fun _ => k) (k + 1) :=
      ⟨k, Nat.add_comm k 1, fun _ => Nat.le_refl k⟩
    cases counter with
    | none => exact hask
    | some c => exact Flow.within_count hask
  · intro e k
    simp only [classify]
    split
    · exact Flow.within_count (Nat.le_refl k)
    · exact Nat.le_refl k
  · exact fun e n k => Flow.within_step rfl fun _ => Nat.le_refl k
  · simp only [persistWaits]
    omega

theorem refresh_within (p : Provisioner) (k : Container) (n : Nat) :
    (p.refresh k).Within (fun _ => n) (p.persistWaits + n) := by
  refine (p.persist_within .list (some .listCalls) (.list k) n).bind fun r => ?_
  cases r with
  | error e => exact Flow.within_count (Nat.le_refl n)
  | ok records =>
      refine Flow.within_step rfl fun _ => ?_
      exact Flow.within_report (Flow.within_changeCache (Nat.le_refl n))

theorem createFailed_within (p : Provisioner) (k : Container) (f : Requirement)
    (e : Catalog.Error) (n : Nat) : (createFailed k f e).Within p.cost n :=
  Flow.within_report (Flow.within_count (p.cost_error_le _ n))

theorem ensureLocked_within (p : Provisioner) (k : Container) (f : Requirement) :
    (p.ensureLocked k f).Within p.cost (2 * p.persistWaits) := by
  refine Flow.within_readCache fun cache => ?_
  split
  · exact Flow.within_report (p.cost_ok_le _)
  · refine ((p.persist_within .create (some .createCalls) (.create k f) p.persistWaits).le
      (by omega)).bind fun r => ?_
    cases r with
    | ok record =>
        exact Flow.within_report (Flow.within_count (Flow.within_changeCache (p.cost_ok_le _)))
    | error e =>
        dsimp only
        split
        · refine Flow.within_report (((p.refresh_within k 0).le (by omega)).bind fun r => ?_)
          cases r with
          | error e => exact p.cost_error_le e 0
          | ok _ =>
              refine Flow.within_readCache fun cache => ?_
              split
              · exact Flow.within_count (p.cost_ok_le 0)
              · exact p.createFailed_within k f e 0
        · exact p.createFailed_within k f e _

theorem ensure_within (p : Provisioner) (k : Container) (f : Requirement) :
    (p.ensure k f).Within p.cost p.ensureWaits := by
  refine Flow.within_step rfl fun l => ⟨2 * p.persistWaits, Nat.add_comm _ 2, fun _ => ?_⟩
  refine (p.ensureLocked_within k f).bind fun o => ?_
  exact Flow.within_step rfl fun _ => Flow.within_step rfl fun _ => Nat.le_refl (p.cost o)

theorem survey_within (p : Provisioner) (k : Container) (rs : List Requirement) :
    (p.survey k rs).Within p.cost (p.persistWaits + rs.length * (p.ensureWaits + 1)) := by
  refine Flow.within_readCache fun cache => ?_
  dsimp only
  split
  · exact Flow.within_count (Flow.within_report (p.cost_ok_le _))
  · split
    · exact Flow.within_count (p.cost_error_le _ _)
    · refine (p.refresh_within k _).bind fun r => ?_
      cases r with
      | error e => exact p.cost_error_le e _
      | ok _ =>
          refine Flow.within_readCache fun cache' => ?_
          have hlen : (cache'.missing k (cache.missing k (Requirement.dedup rs))).length ≤
              rs.length :=
            (List.filter_sublist.trans (List.filter_sublist.trans
              (Requirement.dedup_sublist rs))).length_le
          split
          · exact Flow.within_report (Nat.mul_le_mul_right _ hlen)
          · exact Flow.within_report (Nat.mul_le_mul_right _ hlen)

end Provisioner

namespace Job

def Within (t : Job σ) (n : Nat) : Prop :=
  ∃ a, Shares (Thread.Within t.provisioner.cost) (t.threads.drop t.taken) a ∧
    a + t.backlog.length * (t.provisioner.ensureWaits + 1) ≤ n

/-- Results that are taken turn into the work that they leave. -/
theorem shares_endedFirst (p : Provisioner) {xs : List (Thread σ)} {n : Nat}
    (h : Shares (Thread.Within p.cost) xs n) :
    ∃ m, Shares (Thread.Within p.cost) (xs.drop (Thread.endedFirst xs).length) m ∧
      m + ((Thread.endedFirst xs).flatMap fun o => o.toOption.getD []).length *
        (p.ensureWaits + 1) ≤ n := by
  induction xs generalizing n with
  | nil => exact ⟨n, h, by simp [Thread.endedFirst]⟩
  | cons x xs ih =>
      obtain ⟨a, b, rfl, hx, hxs⟩ := h
      cases ho : x.outcome? with
      | none =>
          simp only [Thread.endedFirst, ho]
          exact ⟨a + b, ⟨a, b, rfl, hx, hxs⟩, by simp⟩
      | some o =>
          obtain ⟨m, hm, hle⟩ := ih hxs
          have hcost : p.cost o ≤ a := by
            rw [Thread.eq_ended ho] at hx
            exact hx
          simp only [Thread.endedFirst, ho]
          refine ⟨m, hm, ?_⟩
          simp only [List.flatMap_cons, List.length_append, Nat.add_mul]
          simp only [Provisioner.cost] at hcost
          omega

theorem Within.collect {t : Job σ} {n : Nat} (h : t.Within n) : t.collect.Within n := by
  obtain ⟨a, ha, hle⟩ := h
  obtain ⟨m, hm, hle'⟩ := shares_endedFirst t.provisioner ha
  refine ⟨m, by simpa [Job.collect] using hm, ?_⟩
  simp only [Job.collect, List.length_append, Nat.add_mul]
  omega

theorem Within.refill {t : Job σ} {n : Nat} (h : t.Within n) (ht : t.taken ≤ t.threads.length) :
    t.refill.Within n := by
  obtain ⟨a, ha, hle⟩ := h
  have hready : ∀ r, Thread.Within t.provisioner.cost
      (.ready (t.provisioner.ensure t.container r) : Thread σ) (t.provisioner.ensureWaits + 1) :=
    fun r => ⟨_, rfl, t.provisioner.ensure_within t.container r⟩
  have hnew := ha.append (Shares.map_const
    fun r (_ : r ∈ t.backlog.take (t.provisioner.settings.window - (t.threads.length - t.taken))) =>
      hready r)
  refine ⟨_, by simpa [Job.refill, List.drop_append_of_le_length ht] using hnew, ?_⟩
  simp only [Job.refill, List.length_drop]
  have hsum : ∀ m r c : Nat, min r m * c + (m - r) * c = m * c := fun m r c => by
    rw [← Nat.add_mul]
    congr 1
    omega
  have := hsum t.backlog.length
    (t.provisioner.settings.window - (t.threads.length - t.taken)) (t.provisioner.ensureWaits + 1)
  omega

theorem drop_mapThreads (t : Job σ) (f : Nat → Thread σ → Thread σ) :
    (t.mapThreads f).threads.drop t.taken =
      (t.threads.drop t.taken).mapIdx fun i => f (t.taken + i) := by
  refine List.ext_getElem? fun i => ?_
  simp [mapThreads, List.getElem?_mapIdx]

theorem Within.mapThreads {t : Job σ} {n : Nat} (h : t.Within n) {f : Nat → Thread σ → Thread σ}
    (hf : ∀ (i : Nat) (x : Thread σ) (m : Nat), t.threads[i]? = some x →
      x.Within t.provisioner.cost m → (f i x).Within t.provisioner.cost m) :
    (t.mapThreads f).Within n := by
  obtain ⟨a, ha, hle⟩ := h
  refine ⟨a, ?_, hle⟩
  rw [show (t.mapThreads f).taken = t.taken from rfl, drop_mapThreads]
  exact ha.mapIdx fun i x m hx => hf _ x m (by simpa using hx)

theorem Within.mapThreads_less {t : Job σ} {n : Nat} (h : t.Within n)
    {f : Nat → Thread σ → Thread σ} {i : Nat} {x : Thread σ} (hx : t.threads[i]? = some x)
    (hi : t.taken ≤ i) (hless : ∀ a, x.Within t.provisioner.cost a →
      ∃ b, a = b + 1 ∧ (f i x).Within t.provisioner.cost b)
    (hf : ∀ (j : Nat) (y : Thread σ) (m : Nat), j ≠ i → t.threads[j]? = some y →
      y.Within t.provisioner.cost m → (f j y).Within t.provisioner.cost m) :
    ∃ m, n = m + 1 ∧ (t.mapThreads f).Within m := by
  obtain ⟨a, ha, hle⟩ := h
  obtain ⟨b, rfl, hb⟩ := ha.mapIdx_less (f := fun j => f (t.taken + j)) (i := i - t.taken) (x := x)
    (by simpa [Nat.add_sub_cancel' hi] using hx) (by simpa [Nat.add_sub_cancel' hi] using hless)
    fun j y m hj hy => hf _ y m (by omega) (by simpa using hy)
  refine ⟨n - 1, by omega, b, ?_, ?_⟩
  · rw [show (t.mapThreads f).taken = t.taken from rfl, drop_mapThreads]
    exact hb
  · simp only [Job.mapThreads]
    omega

theorem start_within {p : Provisioner} {flow : Flow Outcome} {n : Nat} (h : flow.Within p.cost n)
    (k : Container) (place : Place) : (start p k place flow : Job σ).Within (n + 1) :=
  ⟨n + 1, ⟨n + 1, 0, rfl, ⟨n, rfl, h⟩, rfl⟩, by simp [start]⟩

end Job

namespace Pool

def Within (p : Pool σ) (n : Nat) : Prop := Shares Job.Within p.jobs n

variable {D : Nat → Duty C catalog} {stance : ThreadId → Stance} {p p' : Pool σ} {n : Nat}

theorem Within.goes (h : p.Within n) (hs : p.Safe D stance) {id : ThreadId} {ds : List Deed}
    (hgoes : p.Goes catalog id ds p') : ∃ m, n = m + 1 ∧ p'.Within m := by
  cases hgoes with
  | @on t x flow w now ds q ht hx hwake hadv =>
      obtain ⟨-, htidy⟩ := hs.jobs _ t ht
      have hother : ∀ (id' : ThreadId) {y : Thread σ} {cost : Outcome → Nat} {m : Nat}, id' ≠ id →
          y.Within cost m → (settle id q.pause q.woken id' y).Within cost m :=
        fun id' y cost m hne hm =>
          of_settle (P := fun y => y.Within cost m) (fun _ hy => hy.grant) (absurd · hne)
            fun _ => hm
      rw [after_eq]
      refine Shares.mapIdx_less h ht ?_ ?_
      · intro a ha
        have hi : t.taken ≤ id.thread := Nat.le_of_not_lt fun hlt =>
          htidy.ended _ x hlt hx (Thread.not_ended_of_wake? hwake)
        have hless : ∀ c, x.Within t.provisioner.cost c → ∃ b, c = b + 1 ∧
            (settle id q.pause q.woken ⟨id.job, id.thread⟩ x).Within t.provisioner.cost b := by
          intro c hc
          obtain ⟨b, rfl, hb⟩ := hc.wake hwake
          exact ⟨b, rfl, of_settle (P := fun y => y.Within t.provisioner.cost b)
            (fun _ hy => hy.grant) (fun _ => hadv.within_woken hb) fun hne => absurd rfl hne⟩
        obtain ⟨b, rfl, hb⟩ := ha.mapThreads_less
          (f := fun n => settle id q.pause q.woken ⟨id.job, n⟩)
          hx hi hless fun n y m hn _ hm => hother _ (fun he => hn (congrArg ThreadId.thread he)) hm
        refine ⟨b, rfl, ?_⟩
        simp only [settleJob, if_true]
        refine hb.collect.refill (Job.collect_taken_le ?_)
        simpa [Job.mapThreads] using htidy.taken_le
      · intro i t' a hi _ ha
        simp only [settleJob, hi, if_false]
        exact ha.mapThreads fun n y m _ hm => hother _ (fun he => hi (congrArg ThreadId.job he)) hm

/-- A run is no longer than its budget. -/
theorem Within.run {outside : σ → σ → Prop} (h : p.Within n) (hs : p.Safe D stance)
    (ho : ∀ (d : Data σ) (s : σ), C.inv d → outside d.catalog s →
      C.change none d { d with catalog := s } ∧ C.inv { d with catalog := s })
    {m : Nat} {ds : Chronicle} (hr : Run catalog (InCatalog outside) p m ds p') :
    ∃ k, n = m + k ∧ p'.Within k := by
  induction hr with
  | start => exact ⟨n, by omega, h⟩
  | goes hrun hgoes ih =>
      obtain ⟨⟨stance', hs'⟩, -⟩ := hs.run ho hrun
      obtain ⟨k, rfl, hk⟩ := ih
      obtain ⟨k, rfl, hk'⟩ := hk.goes hs' hgoes
      exact ⟨k, by omega, hk'⟩
  | others _ _ ih => exact ih

end Pool
end DocQuery.Provision
