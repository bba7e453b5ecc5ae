import DocQuery.Proofs.Provision.Jobs
import DocQuery.Proofs.Provision.Steps
import DocQuery.Provision.Clock

/-! # Runs

In a run the threads of a pool go on one at a time, in any order and in every way that flows can go
on, while others act as well. Kept with a run are how often a thread went on and what each thread
did. The scheduler that runs threads against a clock takes one of these ways.
-/

namespace DocQuery.Provision

variable {σ : Type} {catalog : Catalog σ}

/-! ## One thread goes on -/

def Thread.received (w : World σ) : Thread σ → List Exchange
  | .paused (.awaiting _ r finish _) => [⟨r, (finish w.catalog).value⟩]
  | _ => []

namespace Pool

theorem thread?_eq {p : Pool σ} {i : Nat} {t : Job σ} (ht : p.jobs[i]? = some t) (n : Nat) :
    p.thread? ⟨i, n⟩ = t.threads[n]? := by
  simp [thread?, ht]

def mapThreads (p : Pool σ) (f : ThreadId → Thread σ → Thread σ) : Pool σ :=
  { p with jobs := p.jobs.mapIdx fun i t => t.mapThreads fun n => f ⟨i, n⟩ }

theorem modifyThread_eq (p : Pool σ) (id : ThreadId) (g : Thread σ → Thread σ) :
    p.modifyThread id g = p.mapThreads fun id' x => if id' = id then g x else x := by
  have hj : ∀ i (t : Job σ), (if id.job = i then
      { t with threads := t.threads.modify id.thread g } else t) =
      t.mapThreads fun n x => if (⟨i, n⟩ : ThreadId) = id then g x else x := by
    intro i t
    by_cases hi : id.job = i
    · subst hi
      have ht : t.threads.modify id.thread g =
          t.threads.mapIdx fun n x => if (⟨id.job, n⟩ : ThreadId) = id then g x else x := by
        refine List.ext_getElem? fun n => ?_
        have he : (⟨id.job, n⟩ : ThreadId) = id ↔ id.thread = n :=
          ⟨fun h => (congrArg ThreadId.thread h).symm, fun h => by rw [← h]⟩
        simp [List.getElem?_modify, List.getElem?_mapIdx, he]
      simp [Job.mapThreads, ht]
    · have hne : ∀ n, (⟨i, n⟩ : ThreadId) ≠ id := fun n h => hi (congrArg ThreadId.job h).symm
      rw [if_neg hi, t.mapThreads_self fun n x => if_neg (hne n)]
  have hl : p.jobs.modify id.job (fun t => { t with threads := t.threads.modify id.thread g }) =
      p.jobs.mapIdx fun i t =>
        t.mapThreads fun n x => if (⟨i, n⟩ : ThreadId) = id then g x else x := by
    refine List.ext_getElem? fun i => ?_
    simp [List.getElem?_modify, List.getElem?_mapIdx, ← hj]
  simp [modifyThread, modifyJob, mapThreads, hl]

@[simp] theorem mapThreads_mapThreads (p : Pool σ) (f g : ThreadId → Thread σ → Thread σ) :
    (p.mapThreads f).mapThreads g = p.mapThreads fun id x => g id (f id x) := by
  simp [mapThreads, List.mapIdx_mapIdx, Function.comp_def]

theorem foldl_grant (ids : List ThreadId) (p : Pool σ) (f : ThreadId → Thread σ → Thread σ) :
    ids.foldl (fun p id => p.modifyThread id Thread.grant) (p.mapThreads f) =
      p.mapThreads fun id x => if id ∈ ids then (f id x).grant else f id x := by
  induction ids generalizing f with
  | nil => simp
  | cons id ids ih =>
      rw [List.foldl_cons, modifyThread_eq, mapThreads_mapThreads, ih]
      congr 1
      funext id' x
      by_cases h₁ : id' = id <;> by_cases h₂ : id' ∈ ids <;> simp [h₁, h₂]

/-- What becomes of each thread when one goes on until it pauses. -/
def settle (id : ThreadId) (pause : Pause σ Outcome) (woken : List ThreadId) (id' : ThreadId)
    (x : Thread σ) : Thread σ :=
  if id' ∈ woken then (if id' = id then .paused pause else x).grant
  else if id' = id then .paused pause else x

/-- What becomes of each job: the one whose thread went on takes results and begins threads. -/
def settleJob (id : ThreadId) (pause : Pause σ Outcome) (woken : List ThreadId) (i : Nat)
    (t : Job σ) : Job σ :=
  let t := t.mapThreads fun n => settle id pause woken ⟨i, n⟩
  if i = id.job then t.collect.refill else t

theorem after_eq (p : Pool σ) (id : ThreadId) (q : Progress σ Outcome) :
    p.after id q = ⟨q.world, p.jobs.mapIdx (settleJob id q.pause q.woken)⟩ := by
  rw [after, modifyThread_eq, foldl_grant]
  simp only [modifyJob, mapThreads, mk.injEq, true_and]
  refine List.ext_getElem? fun i => ?_
  simp only [List.getElem?_modify, List.getElem?_mapIdx, Option.map_eq_map, Option.map_map]
  congr 1
  funext t
  by_cases hi : i = id.job
  · subst hi
    simp only [Function.comp_apply, settleJob, if_true]
    rfl
  · simp only [Function.comp_apply, settleJob, hi, Ne.symm hi, if_false]
    rfl

@[simp] theorem world_after (p : Pool σ) (id : ThreadId) (q : Progress σ Outcome) :
    (p.after id q).world = q.world := by
  rw [after_eq]

theorem getElem?_jobs_after {p : Pool σ} {id : ThreadId} {q : Progress σ Outcome} {i : Nat}
    {t' : Job σ} (h : (p.after id q).jobs[i]? = some t') :
    ∃ t, p.jobs[i]? = some t ∧ t' = settleJob id q.pause q.woken i t := by
  rw [after_eq, List.getElem?_mapIdx] at h
  obtain ⟨t, ht, rfl⟩ := Option.map_eq_some_iff.1 h
  exact ⟨t, ht, rfl⟩

/-- When a thread goes on and hands no lock to others, their jobs stay as they are. -/
theorem after_of_woken_nil {p : Pool σ} {id : ThreadId} {q : Progress σ Outcome} {t : Job σ}
    (ht : p.jobs[id.job]? = some t) (hq : q.woken = []) :
    p.after id q = ⟨q.world, p.jobs.set id.job (settleJob id q.pause [] id.job t)⟩ := by
  rw [after_eq, hq]
  congr 1
  refine List.ext_getElem? fun i => ?_
  rw [List.getElem?_mapIdx, List.getElem?_set]
  by_cases hi : id.job = i
  · subst hi
    obtain ⟨hlt, rfl⟩ := List.getElem?_eq_some_iff.1 ht
    simp [hlt]
  · rw [if_neg hi]
    have hsame : ∀ t : Job σ, settleJob id q.pause [] i t = t := fun t => by
      simp only [settleJob, Ne.symm hi, if_false]
      refine t.mapThreads_self fun n x => ?_
      have hne : (⟨i, n⟩ : ThreadId) ≠ id := fun he => hi (congrArg ThreadId.job he).symm
      simp [settle, hne]
    cases p.jobs[i]? with
    | none => rfl
    | some t => simp [hsame t]

/-- What a handed lock does not change holds of each thread when one has gone on, if it holds of
that one and held of all others. -/
theorem of_settle {P : Thread σ → Prop} (hgrant : ∀ x, P x → P x.grant) {id id' : ThreadId}
    {pause : Pause σ Outcome} {woken : List ThreadId} {x : Thread σ}
    (hself : id' = id → P (.paused pause)) (hother : id' ≠ id → P x) :
    P (settle id pause woken id' x) := by
  have hthread : P (if id' = id then .paused pause else x) := by
    split
    · rename_i he
      exact hself he
    · rename_i hne
      exact hother hne
  simp only [settle]
  split
  · exact hgrant _ hthread
  · exact hthread

theorem settle_of_ended {id id' : ThreadId} {pause : Pause σ Outcome} {woken : List ThreadId}
    {x : Thread σ} (hid : id' = id → x.outcome? = none) (ho : x.outcome? ≠ none) :
    settle id pause woken id' x = x := by
  have hne : id' ≠ id := fun he => ho (hid he)
  simp [settle, hne, Thread.grant_of_ended ho]

/-- One way in which a thread can go on, and what it does then. -/
inductive Goes (catalog : Catalog σ) (p : Pool σ) (id : ThreadId) : List Deed → Pool σ → Prop
  | on {t : Job σ} {x : Thread σ} {flow : Flow Outcome} {w : World σ} {now : Nat} {ds : List Deed}
      {q : Progress σ Outcome} : p.jobs[id.job]? = some t → t.threads[id.thread]? = some x →
      x.wake? p.world = some (flow, w) → flow.Advances catalog now t.place id w ds q →
      Goes catalog p id ((x.received p.world).map .heard ++ ds) (p.after id q)

def deeds (catalog : Catalog σ) (now : Nat) (id : ThreadId) (p : Pool σ) : List Deed :=
  Option.getD (do
    let job ← p.jobs[id.job]?
    let thread ← job.threads[id.thread]?
    let (flow, world) ← thread.wake? p.world
    return (thread.received p.world).map .heard ++
      flow.deeds catalog now job.place id world) []

section

variable {p p' : Pool σ} {id : ThreadId} {now : Nat} {t : Job σ} {x : Thread σ}
  {flow : Flow Outcome} {w : World σ}

theorem resume?_eq (ht : p.jobs[id.job]? = some t) (hx : t.threads[id.thread]? = some x)
    (hw : x.wake? p.world = some (flow, w)) :
    p.resume? catalog now id = some (p.after id (flow.advance catalog now t.place id w),
      (flow.advance catalog now t.place id w).woken) := by
  simp [resume?, ht, hx, hw]

/-- Letting a thread go on is one way for it to go on. -/
theorem Goes.of_resume? {woken : List ThreadId}
    (h : p.resume? catalog now id = some (p', woken)) :
    p.Goes catalog id (p.deeds catalog now id) p' := by
  simp only [resume?, Option.bind_eq_bind, Option.bind_eq_some_iff] at h
  obtain ⟨t, ht, x, hx, ⟨flow, w⟩, hw, h⟩ := h
  simp only [Option.pure_def, Option.some.injEq, Prod.mk.injEq] at h
  obtain ⟨rfl, -⟩ := h
  have hdeeds : p.deeds catalog now id =
      (x.received p.world).map .heard ++ flow.deeds catalog now t.place id w := by
    simp [deeds, ht, hx, hw]
  rw [hdeeds]
  exact .on ht hx hw (flow.advances w)

end

/-- When a thread has gone on, something is said of all threads of a job if it is said of each
thread that was there, as it stands then, and of each that begins. And no job has results that are
due. -/
theorem holds_after {p : Pool σ} {id : ThreadId} {q : Progress σ Outcome} {t₀ t' : Job σ} {i : Nat}
    {x₀ : Thread σ} {r : Flow Outcome × World σ} (ht₀ : p.jobs[id.job]? = some t₀)
    (hx₀ : t₀.threads[id.thread]? = some x₀) (hw : x₀.wake? p.world = some r)
    (ht' : (p.after id q).jobs[i]? = some t') {pr : Provisioner} {k : Container} {place : Place}
    {J K : Job.Judgement σ} (h : ∀ t, p.jobs[i]? = some t → t.Holds pr k place J)
    (hstep : ∀ t n x, p.jobs[i]? = some t → t.threads[n]? = some x → J.holds t.rest n x →
      K.holds t.rest n (settle id q.pause q.woken ⟨i, n⟩ x))
    (hbegin : ∀ (t : Job σ) n f, t.Holds pr k place K → p.thread? ⟨i, n + 1⟩ = none →
      t.rest[n]? = some f → K.holds t.rest (n + 1) (.ready (pr.ensure k f))) :
    t'.Holds pr k place K ∧ ((∀ t, p.jobs[i]? = some t → t.Tidy) → t'.Tidy) := by
  obtain ⟨t, ht, rfl⟩ := getElem?_jobs_after ht'
  have hkeep : ∀ (n : Nat) (x : Thread σ), t.threads[n]? = some x → x.outcome? ≠ none →
      settle id q.pause q.woken ⟨i, n⟩ x = x := by
    intro n x hx
    refine settle_of_ended ?_
    rintro rfl
    obtain rfl : t₀ = t := Option.some.inj (ht₀.symm.trans ht)
    obtain rfl : x₀ = x := Option.some.inj (hx₀.symm.trans hx)
    exact Thread.not_ended_of_wake? hw
  have hmap := (h t ht).mapThreads hkeep fun n x hx => hstep t n x ht hx
  simp only [settleJob]
  split
  · refine ⟨hmap.collect.refill fun n f hn hf => hbegin _ n f hmap.collect ?_ hf,
      fun _ => hmap.collect.accounted.refill_tidy fun _ => Job.collect_due _⟩
    rw [thread?_eq ht]
    exact List.getElem?_eq_none (by simpa [Job.mapThreads, Job.collect] using hn)
  · rename_i hi
    refine ⟨hmap, fun htidy => (htidy t ht).mapThreads hkeep fun n x => ?_⟩
    have hne : (⟨i, n⟩ : ThreadId) ≠ id := fun he => hi (congrArg ThreadId.job he)
    by_cases hw : (⟨i, n⟩ : ThreadId) ∈ q.woken <;> simp [settle, hne, hw]

/-- What a handed lock does not change is said of all threads of a job when one has gone on, if it
is said of that one and of each that begins, and of the others before. -/
theorem Goes.holds {p p' : Pool σ} {id : ThreadId} {more : List Deed}
    (hgoes : p.Goes catalog id more p') {i : Nat} {t' : Job σ} (ht' : p'.jobs[i]? = some t')
    {pr : Provisioner} {k : Container} {place : Place} {J K : Job.Judgement σ}
    (h : ∀ t, p.jobs[i]? = some t → t.Holds pr k place J)
    (hgrant : ∀ {rest n x}, K.holds rest n x → K.holds rest n x.grant)
    (hother : ∀ {rest n x}, (⟨i, n⟩ : ThreadId) ≠ id → J.holds rest n x → K.holds rest n x)
    (hself : ∀ {rest x flow w now ds q}, id.job = i → J.holds rest id.thread x →
      x.wake? p.world = some (flow, w) → flow.Advances catalog now place id w ds q →
      more = (x.received p.world).map .heard ++ ds → p'.world = q.world →
      K.holds rest id.thread (.paused q.pause))
    (hbegin : ∀ {rest n f}, (⟨i, n + 1⟩ : ThreadId) ≠ id → p.thread? ⟨i, n + 1⟩ = none →
      rest[n]? = some f → K.holds rest (n + 1) (.ready (pr.ensure k f))) :
    t'.Holds pr k place K := by
  cases hgoes with
  | @on t x flow w now ds q ht hx hwake hadv =>
      refine (holds_after ht hx hwake ht' h ?_ ?_).1
      · intro t₁ n y ht₁ hy hthread
        refine of_settle (P := K.holds t₁.rest n) (fun _ => hgrant) ?_
          fun hne => hother hne hthread
        rintro rfl
        obtain rfl : t = t₁ := Option.some.inj (ht.symm.trans ht₁)
        obtain rfl : x = y := Option.some.inj (hx.symm.trans hy)
        rw [(h t ht).place] at hadv
        exact hself rfl hthread hwake hadv rfl (world_after ..)
      · intro t₁ n f _ hnew
        refine hbegin ?_ hnew
        rintro rfl
        rw [thread?_eq ht, hx] at hnew
        cases hnew

theorem thread?_of_after {p : Pool σ} {id id' : ThreadId} {q : Progress σ Outcome}
    (h : (p.after id q).thread? id' = none) : p.thread? id' = none := by
  obtain ⟨i, n⟩ := id'
  cases ht : p.jobs[i]? with
  | none => simp [thread?, ht]
  | some t =>
      have ht' : (p.after id q).jobs[i]? = some (settleJob id q.pause q.woken i t) := by
        rw [after_eq, List.getElem?_mapIdx, ht]
        rfl
      rw [thread?_eq ht', List.getElem?_eq_none_iff] at h
      rw [thread?_eq ht, List.getElem?_eq_none_iff]
      refine Nat.le_trans ?_ h
      simp only [settleJob]
      split
      · simp [Job.mapThreads, Job.collect, Job.refill]
      · simp [Job.mapThreads]

end Pool

/-! ## Chronicles -/

abbrev Chronicle := List (ThreadId × Deed)

def mark (id : ThreadId) (ds : List Deed) : Chronicle := ds.map (Prod.mk id)

def ofThread (id : ThreadId) (ds : Chronicle) : Chronicle := ds.filter fun x => x.1 = id

def deedsOf (id : ThreadId) (ds : Chronicle) : List Deed := (ofThread id ds).map Prod.snd

theorem mark_deedsOf (id : ThreadId) (ds : Chronicle) :
    mark id (deedsOf id ds) = ofThread id ds := by
  rw [mark, deedsOf, List.map_map]
  refine (List.map_congr_left fun x hx => ?_).trans (List.map_id _)
  have hid : x.1 = id := by simpa using (List.mem_filter.1 hx).2
  simp [← hid]

theorem deedsOf_self (id : ThreadId) (ds : Chronicle) (more : List Deed) :
    deedsOf id (ds ++ mark id more) = deedsOf id ds ++ more := by
  simp [deedsOf, ofThread, mark, List.filter_map, Function.comp_def]

theorem deedsOf_of_ne {id id' : ThreadId} (h : id' ≠ id) (ds : Chronicle) (more : List Deed) :
    deedsOf id' (ds ++ mark id more) = deedsOf id' ds := by
  simp [deedsOf, ofThread, mark, List.filter_map, Function.comp_def, h.symm]

/-! ## Whole runs -/

def InCatalog (outside : σ → σ → Prop) (w w' : World σ) : Prop :=
  ∃ s, outside w.catalog s ∧ w' = { w with catalog := s }

namespace Pool

/-- What a pool comes to after a number of times that a thread went on, in whatever order, while
others act as well; and what its threads have done. -/
inductive Run (catalog : Catalog σ) (others : World σ → World σ → Prop) (p : Pool σ) :
    Nat → Chronicle → Pool σ → Prop
  | start : Run catalog others p 0 [] p
  | goes {n : Nat} {ds : Chronicle} {p' p'' : Pool σ} {id : ThreadId} {more : List Deed} :
      Run catalog others p n ds p' → p'.Goes catalog id more p'' →
      Run catalog others p (n + 1) (ds ++ mark id more) p''
  | others {n : Nat} {ds : Chronicle} {p' : Pool σ} {w : World σ} :
      Run catalog others p n ds p' → others p'.world w →
      Run catalog others p n ds { p' with world := w }

variable {others : World σ → World σ → Prop} {p p' : Pool σ} {n : Nat} {ds ds' : Chronicle}

theorem Run.length_jobs (h : Run catalog others p n ds p') :
    p'.jobs.length = p.jobs.length := by
  induction h with
  | start => rfl
  | goes _ hgoes ih =>
      cases hgoes with
      | on _ _ _ _ => simpa [after_eq] using ih
  | others _ _ ih => exact ih

theorem Run.mono {others' : World σ → World σ → Prop} (h : Run catalog others p n ds p')
    (ho : ∀ w w', others w w' → others' w w') : Run catalog others' p n ds p' := by
  induction h with
  | start => exact .start
  | goes _ hgoes ih => exact ih.goes hgoes
  | others _ hw ih => exact ih.others (ho _ _ hw)

/-- A thread that has not begun has done nothing. -/
theorem Run.silent (h : Run catalog others p n ds p') {id : ThreadId}
    (hid : p'.thread? id = none) : deedsOf id ds = [] := by
  induction h with
  | start => rfl
  | others _ _ ih => exact ih hid
  | @goes _ _ p' _ id' _ _ hgoes ih =>
      cases hgoes with
      | @on t x _ _ _ _ _ ht hx _ _ =>
          have hnone := thread?_of_after hid
          have hne : id ≠ id' := by
            rintro rfl
            rw [thread?_eq ht, hx] at hnone
            cases hnone
          rw [deedsOf_of_ne hne]
          exact ih hnone

/-- Lets threads go on in the order given, and keeps what they do. -/
def replay (catalog : Catalog σ) (ds : Chronicle) (p : Pool σ) :
    List ThreadId → Option (Chronicle × Pool σ)
  | [] => some (ds, p)
  | id :: ids => (p.resume? catalog 0 id).bind fun next =>
    next.1.replay catalog (ds ++ mark id (p.deeds catalog 0 id)) ids

theorem Run.replay {p₀ : Pool σ} {ids : List ThreadId} (h : Run catalog others p₀ n ds p)
    (hf : p.replay catalog ds ids = some (ds', p')) :
    Run catalog others p₀ (n + ids.length) ds' p' := by
  induction ids generalizing n p ds with
  | nil =>
      obtain ⟨rfl, rfl⟩ : ds = ds' ∧ p = p' := by simpa [Pool.replay] using hf
      exact h
  | cons id ids ih =>
      obtain ⟨⟨p₁, woken⟩, hr, hf⟩ := Option.bind_eq_some_iff.1 hf
      rw [List.length_cons, Nat.add_comm ids.length, ← Nat.add_assoc]
      exact ih (h.goes (.of_resume? hr)) hf

theorem Run.of_replay (others : World σ → World σ → Prop) {ids : List ThreadId}
    {test : Chronicle × Pool σ → Bool} (h : (p.replay catalog [] ids).any test = true) :
    ∃ n ds p', Run catalog others p n ds p' ∧ test (ds, p') = true := by
  obtain ⟨⟨ds, p'⟩, hreplay, htest⟩ := (Option.any_eq_true _ _).1 h
  exact ⟨_, ds, p', Run.start.replay hreplay, htest⟩

end Pool

/-! ## Against a clock -/

namespace Timed

@[simp] theorem foldl_enqueue_pool {α : Type} (f : α → ThreadId) (as : List α) (t : Timed σ) :
    (as.foldl (fun t a => t.enqueue (f a)) t).pool = t.pool := by
  induction as generalizing t with
  | nil => rfl
  | cons a as ih => exact ih _

theorem resume_pool (id : ThreadId) (t : Timed σ) :
    (t.resume catalog id).pool = t.pool ∨
      ∃ ds, t.pool.Goes catalog id ds (t.resume catalog id).pool := by
  rw [resume]
  split
  · exact Or.inl rfl
  · rename_i pool woken hr
    refine Or.inr ⟨t.pool.deeds catalog t.now id, ?_⟩
    dsimp only
    rw [foldl_enqueue_pool (fun i => ⟨id.job, i⟩), foldl_enqueue_pool fun id => id]
    split
    · exact .of_resume? hr
    · exact .of_resume? hr

/-- Against a clock, threads go on as in some run. -/
theorem run_pool {others : World σ → World σ → Prop} {p : Pool σ} {n : Nat} {ds : Chronicle}
    (fuel : Nat) {t : Timed σ} (h : Pool.Run catalog others p n ds t.pool) :
    ∃ n' ds', Pool.Run catalog others p n' ds' (t.run catalog fuel).pool := by
  induction fuel generalizing t n ds with
  | zero => exact ⟨n, ds, h⟩
  | succ fuel ih =>
      rw [run]
      split
      · rename_i t' ht
        rw [next?] at ht
        split at ht
        · obtain rfl := Option.some.inj ht
          exact ih (t := { t with turns := _ }) h
        · rename_i job thread threads turns _
          obtain rfl := Option.some.inj ht
          rcases resume_pool ⟨job, thread⟩ { t with turns := (job, threads) :: turns } with
            hsame | ⟨more, hgoes⟩
          · exact ih (hsame.symm ▸ h)
          · exact ih (h.goes hgoes)
        · obtain ⟨time, -, rfl⟩ := Option.map_eq_some_iff.1 ht
          have hjump : Pool.Run catalog others p n ds (t.jump time).pool := by
            rw [jump, foldl_enqueue_pool fun timer : Nat × ThreadId => timer.2]
            exact h
          exact ih hjump
      · exact ⟨n, ds, h⟩

end Timed
end DocQuery.Provision
