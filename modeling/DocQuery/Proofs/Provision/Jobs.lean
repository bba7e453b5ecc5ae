import DocQuery.Provision.Pool

/-! # The books of a job

A job that is let go on, takes the results that are due and begins further threads keeps its books:
it has taken the results of the threads in front, what its first thread left is either begun or in
the backlog, and its failure is the first error among the results taken. What is said of each of its
threads is kept likewise, if it is said of those that begin.
-/

namespace DocQuery.Provision

namespace Thread

variable {σ : Type}

def error? (t : Thread σ) : Option Error :=
  match t.outcome? with
  | some (.error e) => some e
  | _ => none

theorem eq_ended {t : Thread σ} {o : Outcome} (h : t.outcome? = some o) :
    t = .paused (.ended o) := by
  match t with
  | .ready _ => simp [outcome?] at h
  | .paused (.ended _) => simpa [outcome?] using h
  | .paused (.asleep _ _) => simp [outcome?] at h
  | .paused (.awaiting _ _ _ _) => simp [outcome?] at h
  | .paused (.queued _ _) => simp [outcome?] at h

/-- A lock that is handed over makes a difference to who waits for it. -/
theorem grant_cases (t : Thread σ) :
    t.grant = t ∨ ∃ l p, t = .paused (.queued l p) ∧ t.grant = .ready p := by
  match t with
  | .ready _ => exact Or.inl rfl
  | .paused (.asleep _ _) => exact Or.inl rfl
  | .paused (.awaiting _ _ _ _) => exact Or.inl rfl
  | .paused (.ended _) => exact Or.inl rfl
  | .paused (.queued l p) => exact Or.inr ⟨l, p, rfl, rfl⟩

@[simp] theorem grant_grant (t : Thread σ) : t.grant.grant = t.grant := by
  rcases t.grant_cases with h | ⟨l, p, rfl, -⟩
  · rw [h, h]
  · rfl

@[simp] theorem outcome?_grant (t : Thread σ) : t.grant.outcome? = t.outcome? := by
  rcases t.grant_cases with h | ⟨l, p, rfl, -⟩
  · rw [h]
  · rfl

theorem grant_of_ended {t : Thread σ} (h : t.outcome? ≠ none) : t.grant = t := by
  obtain ⟨o, ho⟩ := Option.ne_none_iff_exists'.1 h
  rw [eq_ended ho]
  rfl

/-- Who wakes goes on with what was left, or with the answer of the catalog, taken up. -/
theorem wake?_eq_some {t : Thread σ} {w w' : World σ} {p : Flow Outcome}
    (h : t.wake? w = some (p, w')) :
    (t = .ready p ∧ w' = w) ∨ (∃ ms, t = .paused (.asleep ms p) ∧ w' = w) ∨
    ∃ ms r finish next, t = .paused (.awaiting ms r finish next) ∧
      p = next (finish w.catalog).value ∧
      w' = { w with toData := w.absorb (finish w.catalog) } := by
  match t with
  | .ready p' =>
      obtain ⟨rfl, rfl⟩ : p' = p ∧ w = w' := by simpa [wake?] using h
      exact Or.inl ⟨rfl, rfl⟩
  | .paused (.asleep ms p') =>
      obtain ⟨rfl, rfl⟩ : p' = p ∧ w = w' := by simpa [wake?] using h
      exact Or.inr (Or.inl ⟨ms, rfl, rfl⟩)
  | .paused (.awaiting ms r finish next) =>
      obtain ⟨rfl, rfl⟩ : next (finish w.catalog).value = p ∧
          { w with toData := w.absorb (finish w.catalog) } = w' := by simpa [wake?] using h
      exact Or.inr (Or.inr ⟨ms, r, finish, next, rfl, rfl, rfl⟩)
  | .paused (.queued l p') => simp [wake?] at h
  | .paused (.ended o) => simp [wake?] at h

theorem not_ended_of_wake? {t : Thread σ} {w : World σ} {r : Flow Outcome × World σ}
    (h : t.wake? w = some r) : t.outcome? = none := by
  rcases wake?_eq_some h with ⟨rfl, -⟩ | ⟨ms, rfl, -⟩ | ⟨ms, r, finish, next, rfl, -⟩
  · rfl
  · rfl
  · rfl

theorem length_endedFirst_le (ts : List (Thread σ)) : (endedFirst ts).length ≤ ts.length := by
  induction ts with
  | nil => simp [endedFirst]
  | cons t ts ih =>
      simp only [endedFirst]
      split
      · simpa using ih
      · simp

theorem outcome?_of_endedFirst {ts : List (Thread σ)} {i : Nat} {t : Thread σ}
    (hi : i < (endedFirst ts).length) (ht : ts[i]? = some t) :
    t.outcome? = (endedFirst ts)[i]? := by
  induction ts generalizing i with
  | nil => simp at ht
  | cons t' ts ih =>
      cases ho : t'.outcome? with
      | none => simp [endedFirst, ho] at hi
      | some o =>
          simp only [endedFirst, ho] at hi ⊢
          cases i with
          | zero =>
              obtain rfl : t' = t := by simpa using ht
              simpa using ho
          | succ i => simpa using ih (by simpa using hi) (by simpa using ht)

theorem outcome?_after_endedFirst {ts : List (Thread σ)} {t : Thread σ}
    (ht : ts[(endedFirst ts).length]? = some t) : t.outcome? = none := by
  induction ts with
  | nil => simp at ht
  | cons t' ts ih =>
      cases ho : t'.outcome? with
      | none =>
          obtain rfl : t' = t := by simpa [endedFirst, ho] using ht
          exact ho
      | some o => exact ih (by simpa [endedFirst, ho] using ht)

theorem findSome?_endedFirst (ts : List (Thread σ)) :
    ((endedFirst ts).findSome? fun o =>
      match o with
      | .error e => some e
      | .ok _ => none) = (ts.take (endedFirst ts).length).findSome? error? := by
  induction ts with
  | nil => simp [endedFirst]
  | cons t ts ih =>
      cases ho : t.outcome? with
      | none => simp [endedFirst, ho]
      | some o =>
          cases o with
          | error e => simp [endedFirst, ho, error?]
          | ok rs => simp [endedFirst, ho, error?, ih]

end Thread

namespace Job

variable {σ : Type}

/-- What the first thread left to be provided, once its result has been taken. -/
def rest (t : Job σ) : List Requirement :=
  match t.taken, t.threads with
  | _ + 1, first :: _ => (first.outcome?.bind Except.toOption).getD []
  | _, _ => []

theorem rest_of_taken_zero {t : Job σ} (h : t.taken = 0) : t.rest = [] := by
  simp [rest, h]

/-- Only whether results have been taken, and the first thread, decide what is left. -/
theorem rest_congr {t t' : Job σ} (ht : t'.taken = 0 ↔ t.taken = 0)
    (hf : t.taken ≠ 0 → t'.threads.head? = t.threads.head?) : t'.rest = t.rest := by
  by_cases h : t.taken = 0
  · rw [rest_of_taken_zero h, rest_of_taken_zero (ht.2 h)]
  · obtain ⟨n, hn⟩ := Nat.exists_eq_succ_of_ne_zero h
    obtain ⟨n', hn'⟩ := Nat.exists_eq_succ_of_ne_zero (mt ht.1 h)
    have hf := hf h
    cases hx : t.threads with
    | nil =>
        cases hx' : t'.threads with
        | nil => simp [rest, hn, hn', hx, hx']
        | cons x' xs' => simp [hx, hx'] at hf
    | cons x xs =>
        cases hx' : t'.threads with
        | nil => simp [hx, hx'] at hf
        | cons x' xs' =>
            obtain rfl : x' = x := by simpa [hx, hx'] using hf
            simp [rest, hn, hn', hx, hx']

theorem outcome?_of_mem_rest {t : Job σ} {r : Requirement} (h : r ∈ t.rest) :
    ∃ x : Thread σ, t.threads[0]? = some x ∧ x.outcome? = some (.ok t.rest) := by
  cases ht : t.taken with
  | zero => simp [rest_of_taken_zero ht] at h
  | succ n =>
      cases hx : t.threads with
      | nil => simp [rest, ht, hx] at h
      | cons x xs =>
          have hr : t.rest = (x.outcome?.bind Except.toOption).getD [] := by simp [rest, ht, hx]
          refine ⟨x, rfl, ?_⟩
          rw [hr] at h ⊢
          cases ho : x.outcome? with
          | none => simp [ho] at h
          | some o =>
              cases o with
              | error e => simp [ho, Except.toOption] at h
              | ok rs => rfl

theorem rest_eq {t : Job σ} {x : Thread σ} {o : Outcome} (ht : t.taken ≠ 0)
    (hx : t.threads[0]? = some x) (ho : x.outcome? = some o) : t.rest = o.toOption.getD [] := by
  obtain ⟨n, hn⟩ := Nat.exists_eq_succ_of_ne_zero ht
  cases hxs : t.threads with
  | nil => simp [hxs] at hx
  | cons x' xs =>
      obtain rfl : x' = x := by simpa [hxs] using hx
      simp [rest, hn, hxs, ho]

/-- A job whose books are right; results may be due. -/
structure Accounted (t : Job σ) : Prop where
  begun : t.threads ≠ []
  taken_le : t.taken ≤ t.threads.length
  ended : ∀ i x, i < t.taken → t.threads[i]? = some x → x.outcome? ≠ none
  begun_le : t.threads.length ≤ t.rest.length + 1
  backlog : t.backlog = t.rest.drop (t.threads.length - 1)
  failure : t.failure = (t.threads.take t.taken).findSome? Thread.error?

/-- A job whose books are right, with no result due and no room left for a thread to begin. -/
structure Tidy (t : Job σ) : Prop extends Accounted t where
  due : ∀ x, t.threads[t.taken]? = some x → x.outcome? = none
  filled : t.backlog ≠ [] → t.taken < t.threads.length

theorem start_tidy (p : Provisioner) (k : Container) (place : Place) (flow : Flow Outcome) :
    (start p k place flow : Job σ).Tidy where
  begun := by simp [start]
  taken_le := by simp [start]
  ended := by simp [start]
  begun_le := by simp [start]
  backlog := by simp [start, rest]
  failure := by simp [start]
  due := by simp [start, Thread.outcome?]
  filled := by simp [start]

theorem Accounted.revise {t : Job σ} (h : t.Accounted) {ts : List (Thread σ)}
    (hl : ts.length = t.threads.length) (hs : ts.take t.taken = t.threads.take t.taken) :
    { t with threads := ts }.Accounted := by
  have hr : { t with threads := ts }.rest = t.rest := by
    refine rest_congr Iff.rfl fun hn => ?_
    have hhead := congrArg List.head? hs
    rwa [List.head?_take, List.head?_take, if_neg hn, if_neg hn] at hhead
  constructor
  · intro hn
    exact h.begun (List.length_eq_zero_iff.1 (hl ▸ List.length_eq_zero_iff.2 hn))
  · exact hl ▸ h.taken_le
  · intro i x hi hx
    have hget := congrArg (fun l => l[i]?) hs
    simp only [List.getElem?_take, hi, if_true] at hget
    exact h.ended i x hi (hget ▸ hx)
  · rw [hr, hl]
    exact h.begun_le
  · rw [hr, hl]
    exact h.backlog
  · exact h.failure.trans (by rw [hs])

def Closed (t : Job σ) : Prop :=
  ∀ i x o, t.threads[i + 1]? = some x → x.outcome? = some o → o.toOption.getD [] = []

theorem collect_due (t : Job σ) {x : Thread σ} (hx : t.collect.threads[t.collect.taken]? = some x) :
    x.outcome? = none := by
  have hx' : (t.threads.drop t.taken)[(Thread.endedFirst (t.threads.drop t.taken)).length]? =
      some x := by
    simpa [collect] using hx
  exact Thread.outcome?_after_endedFirst hx'

theorem collect_taken_le {t : Job σ} (h : t.taken ≤ t.threads.length) :
    t.collect.taken ≤ t.collect.threads.length := by
  have := Thread.length_endedFirst_le (t.threads.drop t.taken)
  simp only [List.length_drop, collect] at *
  omega

theorem Accounted.collect_ended {t : Job σ} (h : t.Accounted) {i : Nat} {x : Thread σ}
    (hi : i < t.collect.taken) (hx : t.threads[i]? = some x) : x.outcome? ≠ none := by
  by_cases hlt : i < t.taken
  · exact h.ended i x hlt hx
  · have hlen : i - t.taken < (Thread.endedFirst (t.threads.drop t.taken)).length := by
      simp only [collect] at hi
      omega
    have hdrop : (t.threads.drop t.taken)[i - t.taken]? = some x := by
      rw [List.getElem?_drop, Nat.add_sub_cancel' (Nat.le_of_not_lt hlt)]
      exact hx
    rw [Thread.outcome?_of_endedFirst hlen hdrop, List.getElem?_eq_getElem hlen]
    simp

theorem Accounted.collect_failure {t : Job σ} (h : t.Accounted) :
    t.collect.failure = (t.threads.take t.collect.taken).findSome? Thread.error? := by
  have hf := Thread.findSome?_endedFirst (t.threads.drop t.taken)
  have ht : t.threads.take t.collect.taken = t.threads.take t.taken ++
      (t.threads.drop t.taken).take (Thread.endedFirst (t.threads.drop t.taken)).length :=
    List.take_add
  rw [ht, List.findSome?_append, ← h.failure, ← hf]
  rfl

/-- What the results taken together leave is what the first thread left, if its result is among
them. -/
theorem Accounted.collect_backlog {t : Job σ} (h : t.Accounted) (hc : t.Closed) :
    t.threads.length ≤ t.collect.rest.length + 1 ∧
      t.collect.backlog = t.collect.rest.drop (t.threads.length - 1) := by
  cases ht : t.taken with
  | zero =>
      -- Before the first result is taken there is no other thread.
      have hlen := h.begun_le
      rw [rest_of_taken_zero ht] at hlen
      have hb := h.backlog
      rw [rest_of_taken_zero ht, List.drop_nil] at hb
      obtain ⟨x, hx⟩ : ∃ x, t.threads = [x] := by
        refine List.length_eq_one_iff.1 ?_
        have := List.length_pos_iff.2 h.begun
        simp only [List.length_nil] at hlen
        omega
      cases ho : x.outcome? with
      | none => simp [collect, rest, ht, hx, hb, ho, Thread.endedFirst]
      | some o => simp [collect, rest, ht, hx, hb, ho, Thread.endedFirst]
  | succ n =>
      have hr : t.collect.rest = t.rest := by
        refine rest_congr ?_ fun _ => rfl
        simp only [collect, ht]
        omega
      refine ⟨hr ▸ h.begun_le, ?_⟩
      rw [hr, ← h.backlog]
      show t.backlog ++ _ = t.backlog
      refine List.append_right_eq_self.2 (List.flatMap_eq_nil_iff.2 ?_)
      intro o ho
      obtain ⟨i, hi, rfl⟩ := List.getElem_of_mem ho
      have hlt : t.taken + i < t.threads.length := by
        have := Thread.length_endedFirst_le (t.threads.drop t.taken)
        rw [List.length_drop] at this
        omega
      have hx : (t.threads.drop t.taken)[i]? = some t.threads[t.taken + i] := by
        rw [List.getElem?_drop, List.getElem?_eq_getElem hlt]
      refine hc (n + i) t.threads[t.taken + i] _ ?_ ?_
      · rw [← List.getElem?_eq_getElem hlt, ht]
        congr 1
        omega
      · rw [Thread.outcome?_of_endedFirst hi hx, List.getElem?_eq_getElem hi]

theorem Accounted.collect {t : Job σ} (h : t.Accounted) (hc : t.Closed) : t.collect.Accounted where
  begun := h.begun
  taken_le := collect_taken_le h.taken_le
  ended := fun _ _ => h.collect_ended
  begun_le := (h.collect_backlog hc).1
  backlog := (h.collect_backlog hc).2
  failure := h.collect_failure

theorem Accounted.collect_rest {t : Job σ} (h : t.Accounted) {i : Nat} {x : Thread σ}
    (hx : t.threads[i + 1]? = some x) : t.collect.rest = t.rest := by
  have hlt : i + 1 < t.threads.length := (List.getElem?_eq_some_iff.1 hx).1
  have hne : t.taken ≠ 0 := fun hz => by
    have := h.begun_le
    rw [rest_of_taken_zero hz, List.length_nil] at this
    omega
  refine rest_congr ?_ fun _ => rfl
  simp only [Job.collect]
  omega

theorem Accounted.refill_rest {t : Job σ} (h : t.Accounted) : t.refill.rest = t.rest := by
  refine rest_congr Iff.rfl fun _ => ?_
  cases hx : t.threads with
  | nil => exact absurd hx h.begun
  | cons x xs => simp [refill, hx]

/-- A thread that begins provides the requirement whose turn it is. -/
theorem Accounted.refill_threads {t : Job σ} (h : t.Accounted) {i : Nat} {x : Thread σ}
    (hi : t.threads.length ≤ i + 1) (hx : t.refill.threads[i + 1]? = some x) :
    ∃ r, t.rest[i]? = some r ∧ x = .ready (t.provisioner.ensure t.container r) := by
  simp only [refill] at hx
  rw [List.getElem?_append_right hi, List.getElem?_map, Option.map_eq_some_iff] at hx
  obtain ⟨r, hr, rfl⟩ := hx
  refine ⟨r, ?_, rfl⟩
  have hpos := List.length_pos_iff.2 h.begun
  rw [List.getElem?_take] at hr
  split at hr
  · rw [h.backlog, List.getElem?_drop] at hr
    rw [← hr]
    congr 1
    omega
  · simp at hr

theorem Accounted.refill_cases {t : Job σ} (h : t.Accounted) {i : Nat} {x : Thread σ}
    (hx : t.refill.threads[i]? = some x) :
    t.threads[i]? = some x ∨ ∃ n r, i = n + 1 ∧ t.threads.length ≤ i ∧ t.rest[n]? = some r ∧
      x = .ready (t.provisioner.ensure t.container r) := by
  by_cases hlt : i < t.threads.length
  · refine Or.inl ?_
    simp only [refill] at hx
    rwa [List.getElem?_append_left hlt] at hx
  · have hpos := List.length_pos_iff.2 h.begun
    obtain ⟨n, rfl⟩ := Nat.exists_eq_succ_of_ne_zero (n := i) (by omega)
    obtain ⟨r, hr, hready⟩ := h.refill_threads (Nat.le_of_not_lt hlt) hx
    exact Or.inr ⟨n, r, rfl, Nat.le_of_not_lt hlt, hr, hready⟩

theorem Accounted.refill {t : Job σ} (h : t.Accounted) : t.refill.Accounted := by
  have hbegun := h.begun_le
  constructor
  · simp only [Job.refill]
    exact List.append_ne_nil_of_left_ne_nil h.begun _
  · exact Nat.le_trans h.taken_le (by simp [Job.refill])
  · intro i x hi hx
    have hlt : i < t.threads.length := Nat.lt_of_lt_of_le hi h.taken_le
    simp only [Job.refill] at hx
    rw [List.getElem?_append_left hlt] at hx
    exact h.ended i x hi hx
  · have hpos := List.length_pos_iff.2 h.begun
    have hlen := congrArg List.length h.backlog
    rw [List.length_drop] at hlen
    rw [h.refill_rest]
    simp only [Job.refill, List.length_append, List.length_map, List.length_take]
    omega
  · have hpos := List.length_pos_iff.2 h.begun
    rw [h.refill_rest]
    simp only [Job.refill, List.length_append, List.length_map, List.length_take]
    rw [h.backlog, List.drop_drop, List.length_drop]
    by_cases hroom : t.provisioner.settings.window - (t.threads.length - t.taken) ≤
        t.rest.length - (t.threads.length - 1)
    · rw [Nat.min_eq_left hroom]
      congr 1
      omega
    · rw [List.drop_eq_nil_of_le (by omega), List.drop_eq_nil_of_le (by omega)]
  · have htake : t.refill.threads.take t.taken = t.threads.take t.taken :=
      List.take_append_of_le_length h.taken_le
    exact h.failure.trans (by rw [← htake]; rfl)

/-- When as many threads have begun as have room, a backlog is left only if some thread has not
ended. -/
theorem Accounted.refill_tidy {t : Job σ} (h : t.Accounted)
    (hd : ∀ x, t.threads[t.taken]? = some x → x.outcome? = none) : t.refill.Tidy := by
  have hpos := List.length_pos_iff.2 h.begun
  refine ⟨h.refill, ?_, ?_⟩
  · intro x hx
    by_cases hlt : t.taken < t.threads.length
    · simp only [Job.refill] at hx
      rw [List.getElem?_append_left hlt] at hx
      exact hd x hx
    · have heq : t.taken = t.threads.length := Nat.le_antisymm h.taken_le (Nat.le_of_not_lt hlt)
      obtain ⟨r, -, rfl⟩ := h.refill_threads (i := t.taken - 1) (x := x) (by omega) (by
        rw [Nat.sub_add_cancel (by omega)]
        exact hx)
      rfl
  · intro hb
    have hw : 1 ≤ t.provisioner.settings.window := Nat.le_max_right _ _
    have hroom : t.provisioner.settings.window - (t.threads.length - t.taken) <
        t.backlog.length := by
      simp only [Job.refill] at hb
      exact Nat.lt_of_not_le fun hle => hb (List.drop_eq_nil_of_le hle)
    have := h.taken_le
    simp only [Job.refill, List.length_append, List.length_map, List.length_take]
    omega

theorem Accounted.ended_of_finished {t : Job σ} (h : t.Accounted) (hf : t.isFinished = true) :
    t.threads.length = t.rest.length + 1 ∧
      ∀ (i : Nat) (x : Thread σ), t.threads[i]? = some x → ∃ o, x.outcome? = some o := by
  obtain ⟨hb, ht⟩ : t.backlog = [] ∧ t.taken = t.threads.length := by
    simpa [isFinished] using hf
  have hlen := congrArg List.length h.backlog
  rw [hb, List.length_nil, List.length_drop] at hlen
  have hpos := List.length_pos_iff.2 h.begun
  have := h.begun_le
  refine ⟨by omega, fun i x hx => Option.ne_none_iff_exists'.1 (h.ended i x ?_ hx)⟩
  rw [ht]
  exact (List.getElem?_eq_some_iff.1 hx).1

/-- A finished job fails with the error of one of its threads, or all of them have succeeded. -/
theorem Accounted.result_of_finished {t : Job σ} (h : t.Accounted) (hf : t.isFinished = true) :
    (∃ e, t.result = .error e ∧
        ∃ (i : Nat) (x : Thread σ), t.threads[i]? = some x ∧ x.outcome? = some (.error e)) ∨
      (t.result = .ok () ∧
        ∀ (i : Nat) (x : Thread σ), t.threads[i]? = some x → ∃ rs, x.outcome? = some (.ok rs)) := by
  obtain ⟨-, htaken⟩ : t.backlog = [] ∧ t.taken = t.threads.length := by
    simpa [isFinished] using hf
  have hfail := h.failure
  rw [htaken, List.take_length] at hfail
  cases he : t.threads.findSome? Thread.error? with
  | some e =>
      refine Or.inl ⟨e, by simp [result, hfail, he], ?_⟩
      obtain ⟨x, hx, hxe⟩ := List.exists_of_findSome?_eq_some he
      obtain ⟨i, hi⟩ := List.mem_iff_getElem?.1 hx
      refine ⟨i, x, hi, ?_⟩
      simp only [Thread.error?] at hxe
      split at hxe
      · rename_i ho
        rw [ho, Option.some.inj hxe]
      · cases hxe
  | none =>
      refine Or.inr ⟨by simp [result, hfail, he], fun i x hx => ?_⟩
      obtain ⟨o, ho⟩ := (h.ended_of_finished hf).2 i x hx
      have hn := List.findSome?_eq_none_iff.1 he x (List.mem_of_getElem? hx)
      cases o with
      | ok rs => exact ⟨rs, ho⟩
      | error e => simp [Thread.error?, ho] at hn

theorem Tidy.finished {t : Job σ} (h : t.Tidy)
    (he : ∀ (i : Nat) (x : Thread σ), t.threads[i]? = some x → x.outcome? ≠ none) :
    t.isFinished = true := by
  have ht : t.taken = t.threads.length := by
    rcases Nat.lt_or_eq_of_le h.taken_le with hlt | heq
    · exact absurd (h.due _ (List.getElem?_eq_getElem hlt)) (he _ _ (List.getElem?_eq_getElem hlt))
    · exact heq
  have hb : t.backlog = [] := by
    by_cases hb : t.backlog = []
    · exact hb
    · exact absurd (h.filled hb) (by omega)
  simp [isFinished, ht, hb]

/-! ## Threads that change -/

def mapThreads (t : Job σ) (f : Nat → Thread σ → Thread σ) : Job σ :=
  { t with threads := t.threads.mapIdx f }

theorem mapThreads_self (t : Job σ) {f : Nat → Thread σ → Thread σ} (h : ∀ i x, f i x = x) :
    t.mapThreads f = t := by
  have hf : t.threads.mapIdx f = t.threads := by
    refine List.ext_getElem? fun i => ?_
    rw [List.getElem?_mapIdx]
    cases t.threads[i]? with
    | none => rfl
    | some x => simp [h]
  simp [mapThreads, hf]

@[simp] theorem mapThreads_mapThreads (t : Job σ) (f g : Nat → Thread σ → Thread σ) :
    (t.mapThreads f).mapThreads g = t.mapThreads fun i x => g i (f i x) := by
  simp [mapThreads, List.mapIdx_mapIdx, Function.comp_def]

theorem Accounted.mapThreads {t : Job σ} (h : t.Accounted) {f : Nat → Thread σ → Thread σ}
    (hf : ∀ (i : Nat) (x : Thread σ), t.threads[i]? = some x → x.outcome? ≠ none → f i x = x) :
    (t.mapThreads f).Accounted := by
  refine h.revise (by simp) (List.ext_getElem? fun i => ?_)
  simp only [List.getElem?_take, List.getElem?_mapIdx]
  split
  · rename_i hi
    cases hx : t.threads[i]? with
    | none => rfl
    | some x => simp [hf i x hx (h.ended i x hi hx)]
  · rfl

theorem Accounted.rest_mapThreads {t : Job σ} (h : t.Accounted) {f : Nat → Thread σ → Thread σ}
    (hf : ∀ (i : Nat) (x : Thread σ), t.threads[i]? = some x → x.outcome? ≠ none → f i x = x) :
    (t.mapThreads f).rest = t.rest := by
  refine rest_congr Iff.rfl fun ht => ?_
  rw [Job.mapThreads, List.head?_eq_getElem?, List.head?_eq_getElem?, List.getElem?_mapIdx]
  cases hx : t.threads[0]? with
  | none => rfl
  | some x => simp [hf 0 x hx (h.ended 0 x (Nat.pos_of_ne_zero ht) hx)]

theorem Tidy.mapThreads {t : Job σ} (h : t.Tidy) {f : Nat → Thread σ → Thread σ}
    (hf : ∀ (i : Nat) (x : Thread σ), t.threads[i]? = some x → x.outcome? ≠ none → f i x = x)
    (ho : ∀ i x, (f i x).outcome? = x.outcome?) : (t.mapThreads f).Tidy := by
  refine ⟨h.toAccounted.mapThreads hf, ?_, by simpa [Job.mapThreads] using h.filled⟩
  intro x hx
  simp only [Job.mapThreads, List.getElem?_mapIdx, Option.map_eq_some_iff] at hx
  obtain ⟨x', hx', rfl⟩ := hx
  rw [ho]
  exact h.due x' hx'

/-! ## What is said of all threads -/

/-- What is said of a thread by its number, and by what the first thread has left: of the first
thread it does not depend on what is left, and the others leave nothing. -/
structure Judgement (σ : Type) where
  holds : List Requirement → Nat → Thread σ → Prop
  first : ∀ {rest rest' x}, holds rest 0 x → holds rest' 0 x
  closed : ∀ {rest n x o}, holds rest (n + 1) x → x.outcome? = some o → o.toOption.getD [] = []

structure Holds (p : Provisioner) (k : Container) (place : Place) (J : Judgement σ) (t : Job σ) :
    Prop where
  provisioner : t.provisioner = p
  container : t.container = k
  place : t.place = place
  accounted : t.Accounted
  threads : ∀ (n : Nat) (x : Thread σ), t.threads[n]? = some x → J.holds t.rest n x

section

variable {p : Provisioner} {k : Container} {place : Place} {J J' : Judgement σ} {t : Job σ}

theorem holds_start {flow : Flow Outcome} (h : J.holds [] 0 (.ready flow)) :
    (start p k place flow : Job σ).Holds p k place J where
  provisioner := rfl
  container := rfl
  place := rfl
  accounted := (start_tidy _ _ _ _).toAccounted
  threads := by
    intro n x hx
    cases n with
    | zero =>
        obtain rfl : .ready flow = x := by simpa [start] using hx
        exact J.first h
    | succ n => simp [start] at hx

theorem Holds.collect (h : t.Holds p k place J) : t.collect.Holds p k place J where
  provisioner := h.provisioner
  container := h.container
  place := h.place
  accounted := h.accounted.collect fun n x _ hx => J.closed (h.threads (n + 1) x hx)
  threads := by
    intro n x hx
    have hthread := h.threads n x hx
    cases n with
    | zero => exact J.first hthread
    | succ n => rwa [h.accounted.collect_rest hx]

theorem Holds.refill (h : t.Holds p k place J)
    (hbegin : ∀ n f, t.threads.length ≤ n + 1 → t.rest[n]? = some f →
      J.holds t.rest (n + 1) (.ready (p.ensure k f))) : t.refill.Holds p k place J where
  provisioner := h.provisioner
  container := h.container
  place := h.place
  accounted := h.accounted.refill
  threads := by
    intro n x hx
    rw [h.accounted.refill_rest]
    rcases h.accounted.refill_cases hx with hx | ⟨n, f, rfl, hle, hf, rfl⟩
    · exact h.threads n x hx
    · rw [h.provisioner, h.container]
      exact hbegin n f hle hf

theorem Holds.mapThreads (h : t.Holds p k place J) {f : Nat → Thread σ → Thread σ}
    (hkeep : ∀ (n : Nat) (x : Thread σ), t.threads[n]? = some x → x.outcome? ≠ none → f n x = x)
    (hstep : ∀ n x, t.threads[n]? = some x → J.holds t.rest n x → J'.holds t.rest n (f n x)) :
    (t.mapThreads f).Holds p k place J' where
  provisioner := h.provisioner
  container := h.container
  place := h.place
  accounted := h.accounted.mapThreads hkeep
  threads := by
    intro n x hx
    rw [h.accounted.rest_mapThreads hkeep]
    simp only [Job.mapThreads, List.getElem?_mapIdx, Option.map_eq_some_iff] at hx
    obtain ⟨x, hx, rfl⟩ := hx
    exact hstep n x hx (h.threads n x hx)

end

end Job
end DocQuery.Provision
