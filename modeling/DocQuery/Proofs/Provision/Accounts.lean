import DocQuery.Proofs.Provision.Chronicles

/-! # What the counters of a provisioner say

Resolves and removals of a provisioner, in any number, one after the other or side by side, against
any catalog and with others at work. Each counter is matched with what was asked of the catalog and
what it answered. An error that allows another try is counted whether or not there is another try,
so that the counter of these errors exceeds the number of further tries by the number of requests
that were given up.
-/

namespace DocQuery.Provision

open Catalog (Request)

variable {σ : Type} {catalog : Catalog σ} {p : Provisioner} {place : Place}

/-! ## Chronicles whose accounts are in order -/

def tries (id : ThreadId) (r : Request) (ds : Chronicle) : Nat :=
  ds.countP fun x => x.1 = id && x.2.sends r

section

variable {attempts : Nat} {ds : Chronicle}

theorem total_eq_of_audited (h : ∀ id, ∃ o, Audited attempts (deedsOf id ds) o) {P Q : Deed → Bool}
    (hPQ : ∀ {ds o}, Audited attempts ds o → ds.countP P = ds.countP Q) :
    total P ds = total Q ds := by
  refine (byThread_total P).eq (byThread_total Q) fun id => ?_
  obtain ⟨o, ho⟩ := h id
  rw [← mark_deedsOf, total_mark, total_mark, hPQ ho]

theorem recovered_le_of_audited (h : ∀ id, ∃ o, Audited attempts (deedsOf id ds) o) :
    total (Deed.counts .conflictsRecovered) ds ≤ total Deed.collides ds := by
  refine (byThread_total _).le (byThread_total _) fun id => ?_
  obtain ⟨o, ho⟩ := h id
  rw [← mark_deedsOf, total_mark, total_mark]
  exact ho.recovered

theorem announced_of_audited (h : ∀ id, ∃ o, Audited attempts (deedsOf id ds) o) :
    total Deed.announces ds = followedUp ds := by
  refine (byThread_total _).eq byThread_followedUp fun id => ?_
  obtain ⟨o, ho⟩ := h id
  rw [← mark_deedsOf, total_mark, ho.balanced.announced]

/-- The errors that allow another try are counted, followed up or not. -/
theorem transient_of_audited (h : ∀ id, ∃ o, Audited attempts (deedsOf id ds) o) :
    total (Deed.counts .transientFailures) ds = followedUp ds + givenUp ds := by
  refine (byThread_total _).eq (byThread_followedUp.add byThread_givenUp) fun id => ?_
  obtain ⟨o, ho⟩ := h id
  rw [← mark_deedsOf, total_mark, ho.balanced.announced, ho.balanced.transient id]

/-- A request is given up only after as many tries as there may be. -/
theorem tries_of_audited (h : ∀ id, ∃ o, Audited attempts (deedsOf id ds) o)
    {earlier later : Chronicle} {id : ThreadId} {d : Deed} {x : Request × Catalog.Error}
    (hsplit : ds = earlier ++ (id, d) :: later) (hx : d.error? = some x)
    (ht : x.2.isTransient = true) (hlater : resends id x.1 later = false) :
    tries id x.1 ds = attempts := by
  obtain ⟨o, ho⟩ := h id
  have hown : deedsOf id ds = deedsOf id earlier ++ d :: deedsOf id later := by
    simp [hsplit, deedsOf, ofThread]
  have hlater' : (deedsOf id later).any (Deed.sends x.1) = false := by
    rw [← resends_mark id, mark_deedsOf, resends_ofThread, hlater]
  have hcount : tries id x.1 ds = (deedsOf id ds).countP (Deed.sends x.1) := by
    rw [tries, deedsOf, ofThread, List.countP_map, List.countP_filter]
    simp [Bool.and_comm]
  rw [hcount]
  exact ho.balanced.exhausted _ d _ x hown hx ht hlater'

end

/-! ## Calls -/

/-- Calls that ran side by side: what was asked and done, how each ended, and the counters before
and after. -/
structure Batch where
  errands : List Errand
  deeds : Chronicle
  results : List (Except Error Unit)
  before : Metrics
  after : Metrics

def Aside (site : Nat) (w w' : World σ) : Prop := w'.metrics site = w.metrics site

/-- Calls of a provisioner, and the world that they lead to. Between the calls, as during them,
others leave only the counters of the provisioner alone. -/
inductive Served (catalog : Catalog σ) (p : Provisioner) (place : Place) (w : World σ) :
    List Batch → World σ → Prop
  | start : Served catalog p place w [] w
  | calls {bs : List Batch} {w' : World σ} {es : List Errand} {n : Nat} {ds : Chronicle}
      {pool : Pool σ} : Served catalog p place w bs w' →
      Pool.Run catalog (Aside place.site) ⟨w', es.map (Errand.job p place)⟩ n ds pool →
      (∀ t ∈ pool.jobs, t.isFinished = true) →
      Served catalog p place w (bs ++ [⟨es, ds, pool.jobs.map Job.result,
        w'.metrics place.site, pool.world.metrics place.site⟩]) pool.world
  | others {bs : List Batch} {w' w'' : World σ} : Served catalog p place w bs w' →
      Aside place.site w' w'' → Served catalog p place w bs w''

def overall (F : Chronicle → Nat) : List Batch → Nat
  | [] => 0
  | b :: bs => F b.deeds + overall F bs

theorem overall_append (F : Chronicle → Nat) (bs bs' : List Batch) :
    overall F (bs ++ bs') = overall F bs + overall F bs' := by
  induction bs with
  | nil => simp [overall]
  | cons b bs ih =>
      rw [List.cons_append, overall, overall, ih]
      omega

theorem overall_le {F G : Chronicle → Nat} {bs : List Batch}
    (h : ∀ b ∈ bs, F b.deeds ≤ G b.deeds) : overall F bs ≤ overall G bs := by
  induction bs with
  | nil => exact Nat.le_refl 0
  | cons b bs ih =>
      obtain ⟨hb, h⟩ := List.forall_mem_cons.1 h
      exact Nat.add_le_add hb (ih h)

theorem overall_eq {F G : Chronicle → Nat} {bs : List Batch}
    (h : ∀ b ∈ bs, F b.deeds = G b.deeds) : overall F bs = overall G bs :=
  Nat.le_antisymm (overall_le fun b hb => (h b hb).le) (overall_le fun b hb => (h b hb).ge)

theorem overall_add (F G : Chronicle → Nat) (bs : List Batch) :
    overall (fun ds => F ds + G ds) bs = overall F bs + overall G bs := by
  induction bs with
  | nil => rfl
  | cons b bs ih =>
      simp only [overall, ih]
      omega

theorem overall_eq_zero {F : Chronicle → Nat} {bs : List Batch} :
    overall F bs = 0 ↔ ∀ b ∈ bs, F b.deeds = 0 := by
  induction bs with
  | nil => simp [overall]
  | cons b bs ih => simp [overall, ih]

def Batch.Ended (catalog : Catalog σ) (p : Provisioner) (place : Place) (b : Batch) : Prop :=
  ∃ (w : World σ) (n : Nat) (pool : Pool σ),
    Pool.Run catalog (Aside place.site) ⟨w, b.errands.map (Errand.job p place)⟩ n b.deeds pool ∧
    (∀ t ∈ pool.jobs, t.isFinished = true) ∧ b.results = pool.jobs.map Job.result ∧
    b.before = w.metrics place.site ∧ b.after = pool.world.metrics place.site

theorem Pool.Run.counted {w : World σ} {es : List Errand} {n : Nat} {ds : Chronicle}
    {pool : Pool σ}
    (hrun : Run catalog (Aside place.site) ⟨w, es.map (Errand.job p place)⟩ n ds pool)
    (c : Counter) : (pool.world.metrics place.site).get c =
      (w.metrics place.site).get c + UInt64.ofNat (total (Deed.counts c) ds) := by
  refine (hrun.metrics (fun _ _ h => h) fun t ht => ?_).2 c
  obtain ⟨e, -, rfl⟩ := List.mem_map.1 ht
  rfl

namespace Served

variable {w w' : World σ} {bs : List Batch}

theorem ended (h : Served catalog p place w bs w') {b : Batch} (hb : b ∈ bs) :
    b.Ended catalog p place := by
  induction h with
  | start => cases hb
  | calls _ hrun hf ih =>
      rcases List.mem_append.1 hb with hb | hb
      · exact ih hb
      · obtain rfl := List.mem_singleton.1 hb
        exact ⟨_, _, _, hrun, hf, rfl, rfl, rfl⟩
  | others _ _ ih => exact ih hb

theorem audited (h : Served catalog p place w bs w') {b : Batch} (hb : b ∈ bs) (id : ThreadId) :
    ∃ o, Audited p.attempts (deedsOf id b.deeds) o := by
  obtain ⟨w₁, n, pool, hrun, hf, -⟩ := h.ended hb
  exact hrun.audited hf id

/-- The counters tell what was counted in all calls together. -/
theorem counted (h : Served catalog p place w bs w') (c : Counter) :
    (w'.metrics place.site).get c =
      (w.metrics place.site).get c + UInt64.ofNat (overall (total (Deed.counts c)) bs) := by
  induction h with
  | start => simp [overall]
  | calls _ hrun _ ih =>
      rw [hrun.counted, ih, overall_append, UInt64.ofNat_add, UInt64.add_assoc]
      rfl
  | others _ hw ih => rw [hw, ih]

theorem counted_fresh (h : Served catalog p place w bs w') (hfresh : w.metrics place.site = {})
    (c : Counter) :
    (w'.metrics place.site).get c = UInt64.ofNat (overall (total (Deed.counts c)) bs) := by
  have hcounted := h.counted c
  rw [hfresh] at hcounted
  cases c <;> simpa [Metrics.get] using hcounted

end Served

structure Call where
  errand : Errand
  deeds : Chronicle
  result : Except Error Unit
  before : Metrics
  after : Metrics

def Call.batch (call : Call) : Batch :=
  ⟨[call.errand], call.deeds, [call.result], call.before, call.after⟩

/-- Makes calls one after the other, each with the order in which its threads go on. -/
def serve (catalog : Catalog σ) (p : Provisioner) (place : Place) (calls : List Call)
    (w : World σ) : List (Errand × List ThreadId) → Option (List Call × World σ)
  | [] => some (calls, w)
  | (e, ids) :: rest =>
    (Pool.replay catalog [] ⟨w, [e.job p place]⟩ ids).bind fun (ds, pool) =>
      match pool.jobs with
      | [t] =>
        if t.isFinished then
          serve catalog p place (calls ++ [⟨e, ds, t.result, w.metrics place.site,
            pool.world.metrics place.site⟩]) pool.world rest
        else none
      | _ => none

theorem Served.serve {w₀ w w' : World σ} {calls calls' : List Call}
    {errands : List (Errand × List ThreadId)}
    (h : Served catalog p place w₀ (calls.map Call.batch) w)
    (hs : serve catalog p place calls w errands = some (calls', w')) :
    Served catalog p place w₀ (calls'.map Call.batch) w' := by
  induction errands generalizing calls w with
  | nil =>
      obtain ⟨rfl, rfl⟩ : calls = calls' ∧ w = w' := by simpa [Provision.serve] using hs
      exact h
  | cons x errands ih =>
      obtain ⟨e, ids⟩ := x
      obtain ⟨⟨ds, pool⟩, hreplay, hs⟩ := Option.bind_eq_some_iff.1 hs
      have hrun : Pool.Run catalog (Aside place.site) ⟨w, [e].map (Errand.job p place)⟩ _ ds
        pool := Pool.Run.start.replay hreplay
      obtain ⟨t, ht⟩ : ∃ t, pool.jobs = [t] := List.length_eq_one_iff.1 hrun.length_jobs
      dsimp only at hs
      rw [ht] at hs
      dsimp only at hs
      split at hs
      · rename_i hf
        refine ih ?_ hs
        have hnext := h.calls hrun (by simpa [ht] using hf)
        simpa [Call.batch, ht] using hnext
      · cases hs

theorem served_of_serve {w w' : World σ} {calls : List Call}
    {errands : List (Errand × List ThreadId)}
    (hs : serve catalog p place [] w errands = some (calls, w')) :
    Served catalog p place w (calls.map Call.batch) w' :=
  have hstart : Served catalog p place w (List.map Call.batch []) w := .start
  hstart.serve hs

/-- Adding a number that does not make a counter begin again leaves it as it is just if the number
is zero. -/
theorem add_ofNat_eq_self_iff {a : UInt64} {n : Nat} (hn : n < 2 ^ 64) :
    a + UInt64.ofNat n = a ↔ n = 0 := by
  have ha := a.toNat_lt
  rw [← UInt64.toNat_inj, UInt64.toNat_add, UInt64.toNat_ofNat', Nat.mod_eq_of_lt hn]
  omega

/-- Errors that allow another try are counted whether or not there is another try. So the counter
equals the number of errors that were followed by another try, which is the number of tries
announced, just if no request was given up; and a request is given up only when its tries have run
out. -/
theorem transientFailures_exceed_retries {w w' : World σ} {bs : List Batch}
    (hfresh : w.metrics place.site = {}) (h : Served catalog p place w bs w') :
    overall (total Deed.announces) bs = overall followedUp bs ∧
    (w'.metrics place.site).transientFailures =
      UInt64.ofNat (overall followedUp bs + overall givenUp bs) ∧
    (overall givenUp bs < 2 ^ 64 →
      ((w'.metrics place.site).transientFailures = UInt64.ofNat (overall followedUp bs) ↔
        ∀ b ∈ bs, givenUp b.deeds = 0)) ∧
    ∀ b ∈ bs, ∀ earlier id d later x, b.deeds = earlier ++ (id, d) :: later →
      d.error? = some x → x.2.isTransient = true → resends id x.1 later = false →
      tries id x.1 b.deeds = p.attempts := by
  have hcounted : (w'.metrics place.site).transientFailures =
      UInt64.ofNat (overall followedUp bs + overall givenUp bs) := by
    rw [← overall_add]
    refine (h.counted_fresh hfresh .transientFailures).trans
      (congrArg _ (overall_eq fun b hb => ?_))
    exact transient_of_audited (h.audited hb)
  refine ⟨overall_eq fun b hb => announced_of_audited (h.audited hb), hcounted,
    fun hbound => ?_, ?_⟩
  · rw [← overall_eq_zero, hcounted, UInt64.ofNat_add]
    exact add_ofNat_eq_self_iff hbound
  · intro b hb earlier id d later x hsplit hx ht hlater
    exact tries_of_audited (h.audited hb) hsplit hx ht hlater

/-- A memory that does not hear the first listing. -/
def deafWorld : World Catalog.Scripted :=
  { catalog := { inner := .ofLinks ["c"] 0
                 queues := [((.list, Catalog.Scripted.anyId), [.transport])] } }

def hasty : Provisioner := ⟨{ (default : Settings) with retryAttempts := 1 }⟩

/-- A single try that fails is counted, although there is no other try. -/
theorem hasty_counts_without_retry : ∃ (calls : List Call) (w' : World Catalog.Scripted),
    Served Catalog.Scripted.catalog hasty ⟨0, 0⟩ deafWorld (calls.map Call.batch) w' ∧
      (w'.metrics 0).transientFailures = 1 ∧
      overall (total Deed.announces) (calls.map Call.batch) = 0 ∧
      overall followedUp (calls.map Call.batch) = 0 ∧
      ¬ ∀ b ∈ calls.map Call.batch, givenUp b.deeds = 0 := by
  have hend : (serve Catalog.Scripted.catalog hasty ⟨0, 0⟩ [] deafWorld
      [(.resolve (.collection "c") [⟨"f", "body"⟩], [⟨0, 0⟩])]).any (fun (calls, w') =>
        decide ((w'.metrics 0).transientFailures = 1) &&
          decide (overall followedUp (calls.map Call.batch) = 0) &&
          decide (overall givenUp (calls.map Call.batch) = 1)) = true := by
    decide +kernel
  obtain ⟨⟨calls, w'⟩, hserve, hend⟩ := (Option.any_eq_true _ _).1 hend
  obtain ⟨⟨hcounted, hfollowed⟩, hgiven⟩ : ((w'.metrics 0).transientFailures = 1 ∧
      overall followedUp (calls.map Call.batch) = 0) ∧
      overall givenUp (calls.map Call.batch) = 1 := by
    simpa only [Bool.and_eq_true, decide_eq_true_eq] using hend
  have hserved := served_of_serve hserve
  obtain ⟨hannounced, -, hiff, -⟩ := transientFailures_exceed_retries rfl hserved
  refine ⟨calls, w', hserved, hcounted, hannounced.trans hfollowed, hfollowed, fun hnone => ?_⟩
  have hsame := (hiff (by rw [hgiven]; decide)).2 hnone
  rw [hfollowed] at hsame
  cases hcounted.symm.trans hsame

/-! ## Calls one after the other -/

theorem Surveyed.eq_nil {S : Surroundings} {k : Container} {rs : List Requirement}
    {start c : Cache} {ds : List Deed} {o : Outcome} (h : Surveyed S p k rs start ds o c)
    (ho : o.toBool = true) (hs : ds.any Deed.isSent = false) : o = .ok [] := by
  cases h with
  | known _ _ _ => rfl
  | unsupported ids _ => cases ho
  | unlisted ht => cases ho
  | listed name e ht _ _ _ _ _ => simp [ht.any_isSent] at hs

namespace Call

/-- A resolve that succeeded without a request. -/
def isFastPath (call : Call) : Bool :=
  call.errand.isResolve && call.result.toBool && !call.deeds.any fun x => x.2.isSent

def failures (call : Call) : Nat := total (Deed.counts .failures) call.deeds

structure Completed (p : Provisioner) (place : Place) (call : Call) (t : Job σ) : Prop where
  does : ∃ start c, t.Does .any p place call.errand start (fun n => deedsOf ⟨0, n⟩ call.deeds) c
  finished : t.isFinished = true
  result : call.result = t.result
  alone : ∀ x ∈ call.deeds, ∃ n y, x.1 = ⟨0, n⟩ ∧ t.threads[n]? = some y

variable {call : Call} {t : Job σ}

theorem exists_completed (h : call.batch.Ended catalog p place) :
    ∃ t : Job σ, Completed p place call t := by
  obtain ⟨w, n, pool, hrun, hf, hresults, -⟩ := h
  obtain ⟨t, ht⟩ : ∃ t, pool.jobs = [t] := List.length_eq_one_iff.1 hrun.length_jobs
  have hdoes := hrun.does (Pool.surrounded_any catalog _ _) (e := call.errand) (i := 0) rfl
    (by rw [ht]; rfl)
  refine ⟨t, ⟨_, _, hdoes⟩, hf t (by simp [ht]), ?_, ?_⟩
  · rw [ht] at hresults
    simpa [batch] using hresults
  · intro x hx
    have hown : x ∈ ofThread x.1 call.deeds := List.mem_filter.2 ⟨hx, by simp⟩
    cases hy : pool.thread? x.1 with
    | none =>
        have hnone : ofThread x.1 call.deeds = [] := List.map_eq_nil_iff.1 (hrun.silent hy)
        rw [hnone] at hown
        cases hown
    | some y =>
        obtain ⟨t', ht', hy⟩ := Option.bind_eq_some_iff.1 hy
        rw [ht, List.getElem?_singleton] at ht'
        split at ht'
        · rename_i hid
          obtain rfl := Option.some.inj ht'
          exact ⟨x.1.thread, y, by rw [← hid], hy⟩
        · cases ht'

namespace Completed

theorem accounted (h : Completed p place call t) : t.Accounted := by
  obtain ⟨start, c, hdoes⟩ := h.does
  exact hdoes.accounted

theorem ends (h : Completed p place call t) {n : Nat} {y : Thread σ} {o : Outcome}
    (hy : t.threads[n]? = some y) (ho : y.outcome? = some o) :
    ∃ start c, call.errand.Ends .any p start t.rest n (deedsOf ⟨0, n⟩ call.deeds) o c := by
  obtain ⟨start, c, hdoes⟩ := h.does
  exact ⟨start, c, (hdoes.thread hy).ended ho⟩

theorem thread_of_mem (h : Completed p place call t) {x : ThreadId × Deed} (hx : x ∈ call.deeds) :
    ∃ n y o, x.1 = ⟨0, n⟩ ∧ t.threads[n]? = some y ∧ y.outcome? = some o ∧
      x.2 ∈ deedsOf ⟨0, n⟩ call.deeds := by
  obtain ⟨n, y, hid, hy⟩ := h.alone x hx
  obtain ⟨o, ho⟩ := (h.accounted.ended_of_finished h.finished).2 _ _ hy
  exact ⟨n, y, o, hid, hy, ho, List.mem_map_of_mem (List.mem_filter.2 ⟨hx, by simpa using hid⟩)⟩

/-- A call fails just if a failure is counted in it. -/
theorem failed_iff (h : Completed p place call t) :
    (∃ e, call.result = .error e) ↔ 0 < call.failures := by
  rw [h.result, failures, total, List.countP_pos_iff]
  rcases h.accounted.result_of_finished h.finished with ⟨e, he, n, y, hy, ho⟩ | ⟨hok, hall⟩
  · refine iff_of_true ⟨e, he⟩ ?_
    obtain ⟨start, c, hends⟩ := h.ends hy ho
    have hpos := hends.audited.failures.2 ⟨e, rfl⟩
    obtain ⟨d, hd, hcounts⟩ := List.countP_pos_iff.1 hpos
    obtain ⟨x, hx, rfl⟩ := List.mem_map.1 hd
    exact ⟨x, (List.mem_filter.1 hx).1, hcounts⟩
  · refine iff_of_false (by simp [hok]) ?_
    rintro ⟨x, hx, hcounts⟩
    obtain ⟨n, y, o, -, hy, ho, hmem⟩ := h.thread_of_mem hx
    have hpos := List.countP_pos_iff.2 ⟨x.2, hmem, hcounts⟩
    obtain ⟨start, c, hends⟩ := h.ends hy ho
    obtain ⟨e, rfl⟩ := hends.audited.failures.1 hpos
    obtain ⟨rs, hrs⟩ := hall n y hy
    cases ho.symm.trans hrs

/-- Only the first thread can take the short way. -/
theorem hits_eq (h : Completed p place call t) :
    total (Deed.counts .fastPathHits) call.deeds =
      (deedsOf ⟨0, 0⟩ call.deeds).countP (Deed.counts .fastPathHits) := by
  rw [deedsOf, ofThread, List.countP_map, List.countP_filter, total]
  refine List.countP_congr fun x hx => ?_
  suffices hfirst : Deed.counts .fastPathHits x.2 = true → x.1 = ⟨0, 0⟩ by
    simpa using hfirst
  intro hcounts
  obtain ⟨n, y, o, hid, hy, ho, hmem⟩ := h.thread_of_mem hx
  cases n with
  | zero => exact hid
  | succ n =>
      obtain ⟨start, c, f, -, hprovided, -⟩ := h.ends hy ho
      have hpos := List.countP_pos_iff.2 ⟨x.2, hmem, hcounts⟩
      rw [hprovided.audited.2] at hpos
      cases hpos

theorem only_survey (h : Completed p place call t) {y : Thread σ} (hy : t.threads[0]? = some y)
    (ho : y.outcome? = some (.ok [])) :
    call.result = .ok () ∧ ∀ x ∈ call.deeds, x.1 = ⟨0, 0⟩ := by
  have hrest : t.rest = [] := by
    by_cases htaken : t.taken = 0
    · exact Job.rest_of_taken_zero htaken
    · exact Job.rest_eq htaken hy ho
  have hlen := (h.accounted.ended_of_finished h.finished).1
  rw [hrest, List.length_nil] at hlen
  have hfirst : ∀ {n : Nat} {z : Thread σ}, t.threads[n]? = some z → n = 0 := fun hz => by
    have hlt := (List.getElem?_eq_some_iff.1 hz).1
    omega
  constructor
  · rw [h.result]
    rcases h.accounted.result_of_finished h.finished with ⟨e, -, n, z, hz, he⟩ | ⟨hok, -⟩
    · obtain rfl := hfirst hz
      obtain rfl : z = y := Option.some.inj (hz.symm.trans hy)
      cases he.symm.trans ho
    · exact hok
  · intro x hx
    obtain ⟨n, z, -, hid, hz, -⟩ := h.thread_of_mem hx
    rw [hid, hfirst hz]

/-- The short way is counted just for resolves that succeed without a request. -/
theorem hits (h : Completed p place call t) :
    total (Deed.counts .fastPathHits) call.deeds = if call.isFastPath then 1 else 0 := by
  have hlt := List.length_pos_iff.2 h.accounted.begun
  have hy := List.getElem?_eq_getElem hlt
  obtain ⟨o, ho⟩ := (h.accounted.ended_of_finished h.finished).2 _ _ hy
  obtain ⟨start, c, hends⟩ := h.ends hy ho
  rw [h.hits_eq]
  cases hcall : call.errand with
  | remove k id =>
      rw [hcall] at hends
      simp [isFastPath, hcall, Errand.isResolve, Removed.audited hends]
  | resolve k rs =>
      rw [hcall] at hends
      have hsurveyed : Surveyed .any p k rs start (deedsOf ⟨0, 0⟩ call.deeds) o c := hends
      have hsame : (o.toBool && !(deedsOf ⟨0, 0⟩ call.deeds).any Deed.isSent) =
          call.isFastPath := by
        rw [Bool.eq_iff_iff, isFastPath, hcall]
        simp only [Bool.and_eq_true, Bool.not_eq_true', List.any_eq_false, Errand.isResolve,
          true_and]
        constructor
        · rintro ⟨hok, hunsent⟩
          obtain rfl := hsurveyed.eq_nil hok (List.any_eq_false.2 hunsent)
          obtain ⟨hresult, honly⟩ := h.only_survey hy ho
          refine ⟨by rw [hresult]; rfl, fun x hx => hunsent x.2 ?_⟩
          exact List.mem_map_of_mem (List.mem_filter.2 ⟨hx, by simpa using honly x hx⟩)
        · rintro ⟨hok, hunsent⟩
          constructor
          · rcases h.accounted.result_of_finished h.finished with ⟨e, he, -⟩ | ⟨-, hall⟩
            · rw [h.result, he] at hok
              cases hok
            · obtain ⟨rs', hrs'⟩ := hall 0 _ hy
              obtain rfl : o = .ok rs' := Option.some.inj (ho.symm.trans hrs')
              rfl
          · intro d hd
            obtain ⟨x, hx, rfl⟩ := List.mem_map.1 hd
            exact hunsent x (List.mem_filter.1 hx).1
      rw [hsurveyed.audited.2, hsame]

end Completed
end Call

/-- The counters account for what is asked of the catalog and for what it answers. -/
theorem metrics_account_for_requests {w w' : World σ} {calls : List Call}
    (hfresh : w.metrics place.site = {})
    (h : Served catalog p place w (calls.map Call.batch) w') :
    (w'.metrics place.site).listCalls =
      UInt64.ofNat (overall (total (Deed.asks .list)) (calls.map Call.batch)) ∧
    (w'.metrics place.site).createCalls =
      UInt64.ofNat (overall (total (Deed.asks .create)) (calls.map Call.batch)) ∧
    (w'.metrics place.site).functionsCreated =
      UInt64.ofNat (overall (total Deed.brings) (calls.map Call.batch)) ∧
    (w'.metrics place.site).conflictsRecovered.toNat ≤
      overall (total Deed.collides) (calls.map Call.batch) ∧
    (w'.metrics place.site).fastPathHits = UInt64.ofNat (calls.countP Call.isFastPath) ∧
    ∀ call ∈ calls,
      call.after.failures = call.before.failures + UInt64.ofNat call.failures ∧
      ((∃ e, call.result = .error e) ↔ 0 < call.failures) ∧
      (call.failures < 2 ^ 64 →
        ((∃ e, call.result = .error e) ↔ call.after.failures ≠ call.before.failures)) := by
  have hcounted := h.counted_fresh hfresh
  have hcompleted : ∀ call ∈ calls, ∃ t : Job σ, Call.Completed p place call t := fun call hcall =>
    Call.exists_completed (h.ended (List.mem_map_of_mem hcall))
  refine ⟨(hcounted .listCalls).trans (congrArg _ (overall_eq fun b hb => ?_)),
    (hcounted .createCalls).trans (congrArg _ (overall_eq fun b hb => ?_)),
    (hcounted .functionsCreated).trans (congrArg _ (overall_eq fun b hb => ?_)), ?_,
    (hcounted .fastPathHits).trans (congrArg _ ?_), fun call hcall => ?_⟩
  · exact total_eq_of_audited (h.audited hb) fun ha => ha.balanced.lists
  · exact total_eq_of_audited (h.audited hb) fun ha => ha.balanced.creates
  · exact total_eq_of_audited (h.audited hb) fun ha => ha.created
  · calc (w'.metrics place.site).conflictsRecovered.toNat
        = overall (total (Deed.counts .conflictsRecovered)) (calls.map Call.batch) % 2 ^ 64 :=
          (congrArg UInt64.toNat (hcounted .conflictsRecovered)).trans (UInt64.toNat_ofNat' ..)
      _ ≤ overall (total (Deed.counts .conflictsRecovered)) (calls.map Call.batch) :=
          Nat.mod_le _ _
      _ ≤ overall (total Deed.collides) (calls.map Call.batch) :=
          overall_le fun b hb => recovered_le_of_audited (h.audited hb)
  · clear h hcounted hfresh
    induction calls with
    | nil => rfl
    | cons call calls ih =>
        obtain ⟨⟨t, ht⟩, hcompleted⟩ := List.forall_mem_cons.1 hcompleted
        rw [List.map_cons, overall, ih hcompleted, List.countP_cons, Nat.add_comm]
        exact congrArg _ ht.hits
  · obtain ⟨t, ht⟩ := hcompleted call hcall
    obtain ⟨w₁, n, pool, hrun, -, -, hbefore, hafter⟩ := h.ended (List.mem_map_of_mem hcall)
    have hfailures : call.after.failures =
        call.before.failures + UInt64.ofNat call.failures := by
      have hgrown := hrun.counted .failures
      rw [← hbefore, ← hafter] at hgrown
      exact hgrown
    refine ⟨hfailures, ht.failed_iff, fun hbound => ?_⟩
    rw [ht.failed_iff, hfailures, Ne, add_ofNat_eq_self_iff hbound, Nat.pos_iff_ne_zero]

/-- A memory behind a line on which the first listing and the deletion of a function get lost, and
where another client is faster at creating the function. -/
def roughWorld : World Catalog.Scripted :=
  { catalog := { inner := .ofLinks ["c"] 0
                 queues := [((.list, Catalog.Scripted.anyId), [.transport]),
                   ((.create, "f"), [.race]), ((.delete, "f"), [.transport, .transport])] } }

def steady : Provisioner :=
  ⟨{ (default : Settings) with retryAttempts := 2, retryBaseDelay := 0, retryMaxDelay := 0 }⟩

theorem steady_accounts_for_requests : ∃ (calls : List Call) (w' : World Catalog.Scripted),
    Served Catalog.Scripted.catalog steady ⟨0, 0⟩ roughWorld (calls.map Call.batch) w' ∧
      calls.map (·.result.toBool) = [true, true, false, true] ∧
      (w'.metrics 0).toList = [1, 4, 2, 1, 1, 3, 1] ∧
      UInt64.ofNat (overall (total (Deed.asks .list)) (calls.map Call.batch)) = 4 ∧
      UInt64.ofNat (overall (total (Deed.asks .create)) (calls.map Call.batch)) = 2 ∧
      UInt64.ofNat (overall (total Deed.brings) (calls.map Call.batch)) = 1 ∧
      UInt64.ofNat (calls.countP Call.isFastPath) = 1 ∧
      ∀ call ∈ calls,
        (∃ e, call.result = .error e) ↔ call.after.failures ≠ call.before.failures := by
  have hend : (serve Catalog.Scripted.catalog steady ⟨0, 0⟩ [] roughWorld
      [(.resolve (.collection "c") [⟨"f", "body"⟩], [⟨0, 0⟩, ⟨0, 1⟩]),
        (.resolve (.collection "c") [⟨"f", "body"⟩], [⟨0, 0⟩]),
        (.remove (.collection "c") "f", [⟨0, 0⟩]),
        (.resolve (.collection "c") [⟨"g", "body"⟩], [⟨0, 0⟩, ⟨0, 1⟩])]).any (fun (calls, w') =>
          decide (calls.map (·.result.toBool) = [true, true, false, true]) &&
            decide ((w'.metrics 0).toList = [1, 4, 2, 1, 1, 3, 1]) &&
            calls.all fun call => decide (call.failures < 2 ^ 64)) = true := by
    decide +kernel
  obtain ⟨⟨calls, w'⟩, hserve, hend⟩ := (Option.any_eq_true _ _).1 hend
  obtain ⟨⟨hresults, hmetrics⟩, hbound⟩ : (calls.map (·.result.toBool) =
      [true, true, false, true] ∧ (w'.metrics 0).toList = [1, 4, 2, 1, 1, 3, 1]) ∧
      ∀ call ∈ calls, call.failures < 2 ^ 64 := by
    simpa only [Bool.and_eq_true, decide_eq_true_eq, List.all_eq_true] using hend
  have hserved := served_of_serve hserve
  obtain ⟨hlists, hcreates, hcreated, -, hhits, hfailures⟩ :=
    metrics_account_for_requests rfl hserved
  obtain ⟨hhits', hlists', hcreates', hcreated', -⟩ : (w'.metrics 0).fastPathHits = 1 ∧
      (w'.metrics 0).listCalls = 4 ∧ (w'.metrics 0).createCalls = 2 ∧
      (w'.metrics 0).functionsCreated = 1 ∧ _ := by
    simpa only [Metrics.toList, List.cons.injEq] using hmetrics
  exact ⟨calls, w', hserved, hresults, hmetrics, hlists.symm.trans hlists',
    hcreates.symm.trans hcreates', hcreated.symm.trans hcreated', hhits.symm.trans hhits',
    fun call hcall => (hfailures call hcall).2.2 (hbound call hcall)⟩

end DocQuery.Provision
