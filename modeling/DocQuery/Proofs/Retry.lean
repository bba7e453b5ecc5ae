import DocQuery.Retry
import Mathlib.Data.List.Range
import Mathlib.Data.Nat.Find

/-! # What a retry policy does

A run of a policy is watched from outside: the calls, the errors put before the classifier, the
announcements and the waits are written down as they happen. Outcomes and verdicts are laid down
beforehand and are arbitrary. The number of calls, the result and everything that is written down
follow from the first try that ends the run, or from the limit if there is none below it.
-/

namespace DocQuery

inductive RetryEvent (ε : Type) where
  | call
  | classify (e : ε)
  | announce (e : ε) (tries : Nat)
  | wait (delay : Duration)
deriving DecidableEq, Repr

namespace RetryEvent

variable {ε : Type}

def calls (log : List (RetryEvent ε)) : Nat :=
  log.countP fun | .call => true | _ => false

def classified (log : List (RetryEvent ε)) : List ε :=
  log.filterMap fun | .classify e => some e | _ => none

def announced (log : List (RetryEvent ε)) : List (ε × Nat) :=
  log.filterMap fun | .announce e tries => some (e, tries) | _ => none

def waits (log : List (RetryEvent ε)) : List Duration :=
  log.filterMap fun | .wait delay => some delay | _ => none

section

variable (log log' : List (RetryEvent ε))

theorem calls_append : calls (log ++ log') = calls log + calls log' := List.countP_append

theorem classified_append : classified (log ++ log') = classified log ++ classified log' :=
  List.filterMap_append

theorem announced_append : announced (log ++ log') = announced log ++ announced log' :=
  List.filterMap_append

theorem waits_append : waits (log ++ log') = waits log ++ waits log' := List.filterMap_append

end

end RetryEvent

namespace RetryPolicy

open RetryEvent

variable {ε α : Type}

/-! ## Watching a run -/

def record (event : RetryEvent ε) : StateM (List (RetryEvent ε)) Unit := modify (· ++ [event])

def call (outcome : Nat → Except ε α) : StateM (List (RetryEvent ε)) (Except ε α) := do
  let log ← get
  record .call
  return outcome (calls log)

/-- A verdict on an error, which may depend on how many errors were judged before. -/
def judge (retryable : Nat → ε → Bool) (e : ε) : StateM (List (RetryEvent ε)) Bool := do
  let log ← get
  record (.classify e)
  return retryable (classified log).length e

section

variable (p : RetryPolicy) (outcome : Nat → Except ε α) (retryable : Nat → ε → Bool)

def watchedFrom (left attempt : Nat) :
    StateM (List (RetryEvent ε)) (Except (RetryFailure ε) α) :=
  p.runAux (call outcome) (judge retryable) (fun e tries => record (.announce e tries))
    (fun delay => record (.wait delay)) left attempt

/-- The result of a policy and what it did, given the outcome of each call and the verdict on each
error. -/
def watched : Except (RetryFailure ε) α × List (RetryEvent ε) :=
  StateT.run (p.run (call outcome) (judge retryable) (fun e tries => record (.announce e tries))
    (fun delay => record (.wait delay))) []

/-- A try after which there is no other: a success, or an error that allows none. -/
def Ends (i : Nat) : Prop := ∀ e, outcome i = .error e → retryable i e = false

def errors (n : Nat) : List ε :=
  (List.range n).filterMap fun i =>
    match outcome i with
    | .error e => some e
    | .ok _ => none

/-- What has happened when `tries` calls were made and no other followed the last one: each error
was judged once, and each one but the last was announced with its number and waited upon. -/
structure Followed (tries : Nat) (log : List (RetryEvent ε)) : Prop where
  calls : calls log = tries
  classified : classified log = errors outcome tries
  announced : announced log = (errors outcome (tries - 1)).zipIdx 1
  waits : waits log = (List.range (tries - 1)).map p.backoff

structure Retried (n : Nat) (log : List (RetryEvent ε)) : Prop where
  calls : calls log = n
  length : (errors outcome n).length = n
  classified : classified log = errors outcome n
  announced : announced log = (errors outcome n).zipIdx 1
  waits : waits log = (List.range n).map p.backoff

end

variable {p : RetryPolicy} {outcome : Nat → Except ε α} {retryable : Nat → ε → Bool}
  {n i left : Nat} {e : ε} {log : List (RetryEvent ε)}

theorem not_ends_iff :
    ¬ Ends outcome retryable i ↔ ∃ e, outcome i = .error e ∧ retryable i e = true := by
  simp [Ends]

theorem errors_succ_error (h : outcome n = .error e) :
    errors outcome (n + 1) = errors outcome n ++ [e] := by
  simp [errors, List.range_succ, h]

theorem errors_succ_ok {a : α} (h : outcome n = .ok a) :
    errors outcome (n + 1) = errors outcome n := by
  simp [errors, List.range_succ, h]

/-! ## One try -/

theorem run_call : (call outcome).run log = pure (outcome (calls log), log ++ [.call]) := rfl

theorem run_judge : (judge retryable e).run log =
    pure (retryable (classified log).length e, log ++ [.classify e]) := rfl

theorem run_record (event : RetryEvent ε) :
    (record event).run log = pure ((), log ++ [event]) := rfl

theorem Retried.length_classified_call (h : Retried p outcome n log) :
    (RetryEvent.classified (log ++ [.call])).length = n := by
  rw [classified_append, h.classified, List.length_append, h.length]
  rfl

theorem watchedFrom_retry (h : Retried p outcome n log) (houtcome : outcome n = .error e)
    (hretry : retryable n e = true) :
    (p.watchedFrom outcome retryable (left + 1) n).run log =
      (p.watchedFrom outcome retryable left (n + 1)).run
        (log ++ [.call, .classify e, .announce e (n + 1), .wait (p.backoff n)]) := by
  simp only [watchedFrom, runAux, StateT.run_bind, pure_bind, run_call, h.calls, houtcome,
    run_judge, h.length_classified_call, hretry, if_true, run_record, List.append_assoc,
    List.cons_append, List.nil_append]

theorem watchedFrom_ok (h : Retried p outcome n log) {a : α} (houtcome : outcome n = .ok a) :
    (p.watchedFrom outcome retryable left n).run log = pure (.ok a, log ++ [.call]) := by
  cases left <;>
    simp only [watchedFrom, runAux, StateT.run_bind, pure_bind, run_call, h.calls, houtcome,
      StateT.run_pure]

theorem watchedFrom_fatal (h : Retried p outcome n log) (houtcome : outcome n = .error e)
    (hstop : retryable n e = false) :
    (p.watchedFrom outcome retryable left n).run log =
      pure (.error (.fatal e), log ++ [.call, .classify e]) := by
  cases left <;>
    simp only [watchedFrom, runAux, StateT.run_bind, pure_bind, run_call, h.calls, houtcome,
      run_judge, h.length_classified_call, hstop, Bool.false_eq_true, if_false, StateT.run_pure,
      List.append_assoc, List.cons_append, List.nil_append]

theorem watchedFrom_exhausted (h : Retried p outcome n log) (houtcome : outcome n = .error e)
    (hretry : retryable n e = true) :
    (p.watchedFrom outcome retryable 0 n).run log =
      pure (.error (.exhausted e), log ++ [.call, .classify e]) := by
  simp only [watchedFrom, runAux, StateT.run_bind, pure_bind, run_call, h.calls, houtcome,
    run_judge, h.length_classified_call, hretry, if_true, StateT.run_pure, List.append_assoc,
    List.cons_append, List.nil_append]

/-! ## What is written down -/

theorem Retried.zero : Retried p outcome 0 [] := ⟨rfl, rfl, rfl, rfl, rfl⟩

theorem Retried.succ (h : Retried p outcome n log) (houtcome : outcome n = .error e) :
    Retried p outcome (n + 1)
      (log ++ [.call, .classify e, .announce e (n + 1), .wait (p.backoff n)]) where
  calls := by rw [calls_append, h.calls]; rfl
  length := by rw [errors_succ_error houtcome, List.length_append, h.length]; rfl
  classified := by rw [classified_append, h.classified, errors_succ_error houtcome]; rfl
  announced := by
    rw [announced_append, h.announced, errors_succ_error houtcome, List.zipIdx_append, h.length,
      Nat.add_comm]
    rfl
  waits := by rw [waits_append, h.waits, List.range_succ, List.map_append]; rfl

theorem Retried.followed_ok (h : Retried p outcome n log) {a : α} (houtcome : outcome n = .ok a) :
    Followed p outcome (n + 1) (log ++ [.call]) where
  calls := by rw [calls_append, h.calls]; rfl
  classified := by
    rw [classified_append, h.classified, errors_succ_ok houtcome]
    exact List.append_nil _
  announced := by rw [announced_append, h.announced]; exact List.append_nil _
  waits := by rw [waits_append, h.waits]; exact List.append_nil _

theorem Retried.followed_error (h : Retried p outcome n log) (houtcome : outcome n = .error e) :
    Followed p outcome (n + 1) (log ++ [.call, .classify e]) where
  calls := by rw [calls_append, h.calls]; rfl
  classified := by rw [classified_append, h.classified, errors_succ_error houtcome]; rfl
  announced := by rw [announced_append, h.announced]; exact List.append_nil _
  waits := by rw [waits_append, h.waits]; exact List.append_nil _

/-! ## The run -/

theorem exists_retried (h : ∀ i < n, ¬ Ends outcome retryable i) :
    ∃ log, Retried p outcome n log ∧ ∀ left,
      (p.watchedFrom outcome retryable (left + n) 0).run [] =
        (p.watchedFrom outcome retryable left n).run log := by
  induction n with
  | zero => exact ⟨[], .zero, fun _ => rfl⟩
  | succ n ih =>
      obtain ⟨log, hlog, hrun⟩ := ih fun i hi => h i (Nat.lt_succ_of_lt hi)
      obtain ⟨e, houtcome, hretry⟩ := not_ends_iff.1 (h n (Nat.lt_succ_self n))
      refine ⟨_, hlog.succ houtcome, fun left => ?_⟩
      rw [← watchedFrom_retry hlog houtcome hretry, ← hrun (left + 1)]
      congr 2
      omega

theorem watched_ends (hlimit : n < max 1 p.maxAttempts) (hend : Ends outcome retryable n)
    (h : ∀ i < n, ¬ Ends outcome retryable i) :
    (p.watched outcome retryable).1 = (outcome n).mapError .fatal ∧
      Followed p outcome (n + 1) (p.watched outcome retryable).2 := by
  obtain ⟨log, hlog, hrun⟩ := exists_retried (p := p) h
  have hleft : p.maxAttempts - 1 = (p.maxAttempts - 1 - n) + n := by omega
  have hwatched : p.watched outcome retryable =
      (p.watchedFrom outcome retryable (p.maxAttempts - 1 - n) n).run log := by
    rw [← hrun, ← hleft]
    rfl
  cases houtcome : outcome n with
  | ok a =>
      rw [hwatched, watchedFrom_ok hlog houtcome]
      exact ⟨rfl, hlog.followed_ok houtcome⟩
  | error e =>
      rw [hwatched, watchedFrom_fatal hlog houtcome (hend e houtcome)]
      exact ⟨rfl, hlog.followed_error houtcome⟩

theorem watched_exhausted (h : ∀ i < max 1 p.maxAttempts, ¬ Ends outcome retryable i) :
    (∃ e, outcome (max 1 p.maxAttempts - 1) = .error e ∧
      (p.watched outcome retryable).1 = .error (.exhausted e)) ∧
    Followed p outcome (max 1 p.maxAttempts) (p.watched outcome retryable).2 := by
  obtain ⟨n, hn⟩ : ∃ n, max 1 p.maxAttempts = n + 1 := ⟨max 1 p.maxAttempts - 1, by omega⟩
  rw [hn] at h ⊢
  obtain ⟨log, hlog, hrun⟩ := exists_retried (p := p) fun i hi => h i (Nat.lt_succ_of_lt hi)
  obtain ⟨e, houtcome, hretry⟩ := not_ends_iff.1 (h n (Nat.lt_succ_self n))
  have hleft : p.maxAttempts - 1 = 0 + n := by omega
  have hwatched : p.watched outcome retryable =
      (p.watchedFrom outcome retryable 0 n).run log := by
    rw [← hrun, ← hleft]
    rfl
  rw [hwatched, watchedFrom_exhausted hlog houtcome hretry]
  exact ⟨⟨e, houtcome, rfl⟩, hlog.followed_error houtcome⟩

/-- The first try below the limit that ends the run is the last one, and its success or its error is
the result. Without such a try there are as many as the limit allows, at least one, and the last
error is the result. Either way the calls, verdicts, announcements and waits are those of the tries
that were made. -/
theorem run_follows_policy (p : RetryPolicy) (outcome : Nat → Except ε α)
    (retryable : Nat → ε → Bool) :
    (∀ k < max 1 p.maxAttempts, Ends outcome retryable k → (∀ i < k, ¬ Ends outcome retryable i) →
      (p.watched outcome retryable).1 = (outcome k).mapError .fatal ∧
      Followed p outcome (k + 1) (p.watched outcome retryable).2) ∧
    ((∀ i < max 1 p.maxAttempts, ¬ Ends outcome retryable i) →
      (∃ e, outcome (max 1 p.maxAttempts - 1) = .error e ∧
        (p.watched outcome retryable).1 = .error (.exhausted e)) ∧
      Followed p outcome (max 1 p.maxAttempts) (p.watched outcome retryable).2) ∧
    1 ≤ calls (p.watched outcome retryable).2 ∧
    calls (p.watched outcome retryable).2 ≤ max 1 p.maxAttempts := by
  classical
  refine ⟨fun k hk hend hbefore => watched_ends hk hend hbefore, watched_exhausted, ?_⟩
  by_cases hsome : ∃ k, k < max 1 p.maxAttempts ∧ Ends outcome retryable k
  · have hfirst := Nat.find_spec hsome
    have hbefore : ∀ i < Nat.find hsome, ¬ Ends outcome retryable i := fun i hi hend =>
      Nat.find_min hsome hi ⟨hi.trans hfirst.1, hend⟩
    have hcalls := (watched_ends hfirst.1 hfirst.2 hbefore).2.calls
    omega
  · have hnone : ∀ i < max 1 p.maxAttempts, ¬ Ends outcome retryable i := fun i hi hend =>
      hsome ⟨i, hi, hend⟩
    have hcalls := (watched_exhausted hnone).2.calls
    omega

/-- Two errors that allow another try, and then a success. -/
example : RetryPolicy.watched ⟨3, .ofMillis 100, .ofMillis 350⟩
    (fun i => if i < 2 then .error i else .ok i) (fun _ _ => true) =
      (.ok 2, [.call, .classify 0, .announce 0 1, .wait (.ofMillis 100), .call, .classify 1,
        .announce 1 2, .wait (.ofMillis 200), .call]) := by decide

end RetryPolicy
end DocQuery
