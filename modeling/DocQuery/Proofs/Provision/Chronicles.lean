import DocQuery.Proofs.Provision.Audits
import DocQuery.Proofs.Provision.Frames

/-! # Errands and what is done in them

In every run, whatever the other threads do, the end of each thread of an errand is told by what the
thread has done: the first one has made a survey or has deleted a function, and each of the others
has provided the function whose turn it was. The counters of a provisioner go up by what is counted,
as long as others do not count for it.
-/

namespace DocQuery

def Metrics.get (m : Metrics) : Counter → UInt64
  | .fastPathHits => m.fastPathHits
  | .listCalls => m.listCalls
  | .createCalls => m.createCalls
  | .functionsCreated => m.functionsCreated
  | .conflictsRecovered => m.conflictsRecovered
  | .transientFailures => m.transientFailures
  | .failures => m.failures

theorem Metrics.get_bump (m : Metrics) (c c' : Counter) :
    (m.bump c).get c' = m.get c' + UInt64.ofNat (if c = c' then 1 else 0) := by
  cases c <;> cases c' <;> simp [bump, get]

namespace Provision

variable {σ α : Type} {catalog : Catalog σ}

/-! ## Counters -/

theorem Command.Performs.metrics {now : Nat} {place : Place} {self : ThreadId} {c : Command}
    {a : c.Answer} {w w' : World σ} {woken : List ThreadId}
    (h : c.Performs catalog now place self w a w' woken) (x : Counter) :
    (w'.metrics place.site).get x =
      (w.metrics place.site).get x + UInt64.ofNat ((c.deeds a).countP (Deed.counts x)) := by
  cases h with
  | count y =>
      have hbump := (w.metrics place.site).get_bump y x
      simpa [Data.count, Command.deeds, List.countP_singleton] using hbump
  | _ => simp [Command.deeds, Data.changeCache, Data.report, Data.absorb, World.setLocks]

theorem Flow.Advances.metrics {now : Nat} {place : Place} {self : ThreadId} {p : Flow α}
    {w : World σ} {ds : List Deed} {q : Progress σ α}
    (h : p.Advances catalog now place self w ds q) (x : Counter) :
    (q.world.metrics place.site).get x =
      (w.metrics place.site).get x + UInt64.ofNat (ds.countP (Deed.counts x)) := by
  induction h with
  | ended a w => simp
  | asleep next w => simp
  | awaiting next _ => simp [Data.absorb]
  | queued next _ => simp [World.setLocks]
  | heldUp hc _ => exact hc.metrics x
  | step hc _ ih =>
      rw [List.countP_append, UInt64.ofNat_add, ← UInt64.add_assoc, ← hc.metrics x]
      exact ih

theorem Thread.metrics_wake {x : Thread σ} {w w' : World σ} {p : Flow Outcome}
    (h : x.wake? w = some (p, w')) : w'.metrics = w.metrics := by
  rcases wake?_eq_some h with ⟨-, rfl⟩ | ⟨ms, -, rfl⟩ | ⟨ms, r, finish, next, -, -, rfl⟩
  · rfl
  · rfl
  · rfl

namespace Pool

variable {p p' : Pool σ} {site : Nat}

theorem Goes.metrics {id : ThreadId} {ds : List Deed} (h : p.Goes catalog id ds p')
    (hsite : ∀ t ∈ p.jobs, t.place.site = site) (c : Counter) :
    (p'.world.metrics site).get c =
      (p.world.metrics site).get c + UInt64.ofNat (ds.countP (Deed.counts c)) := by
  cases h with
  | @on t x flow w now ds q ht hx hwake hadv =>
      have hheard : ((x.received p.world).map Deed.heard).countP (Deed.counts c) = 0 := by
        simp [List.countP_map]
      have hadvanced := hadv.metrics c
      rw [hsite t (List.mem_of_getElem? ht), Thread.metrics_wake hwake] at hadvanced
      rw [world_after, List.countP_append, hheard, Nat.zero_add]
      exact hadvanced

theorem Goes.site_eq {id : ThreadId} {ds : List Deed} (h : p.Goes catalog id ds p')
    (hsite : ∀ t ∈ p.jobs, t.place.site = site) : ∀ t ∈ p'.jobs, t.place.site = site := by
  cases h with
  | on _ _ _ _ =>
      intro t' ht'
      obtain ⟨i, hi⟩ := List.mem_iff_getElem?.1 ht'
      obtain ⟨t, ht, rfl⟩ := getElem?_jobs_after hi
      have hplace := hsite t (List.mem_of_getElem? ht)
      simp only [settleJob]
      split
      · exact hplace
      · exact hplace

/-- While others do not count for a provisioner, what its jobs count is what they do. -/
theorem Run.metrics {others : World σ → World σ → Prop} {n : Nat} {ds : Chronicle}
    (h : Run catalog others p n ds p')
    (hothers : ∀ w w', others w w' → w'.metrics site = w.metrics site)
    (hsite : ∀ t ∈ p.jobs, t.place.site = site) :
    (∀ t ∈ p'.jobs, t.place.site = site) ∧ ∀ c, (p'.world.metrics site).get c =
      (p.world.metrics site).get c + UInt64.ofNat (total (Deed.counts c) ds) := by
  induction h with
  | start => exact ⟨hsite, fun c => by simp [total]⟩
  | goes _ hgoes ih =>
      refine ⟨hgoes.site_eq ih.1, fun c => ?_⟩
      rw [hgoes.metrics ih.1, ih.2, total_append, total_mark, UInt64.ofNat_add, UInt64.add_assoc]
  | others _ hw ih => exact ⟨ih.1, fun c => hothers _ _ hw ▸ ih.2 c⟩

end Pool

/-! ## Threads -/

variable {S : Surroundings}

/-- A thread that has done something and goes on to do more, whatever others do to the cache; when
it ends, what `Q` says holds and lasts. -/
def Thread.Does (S : Surroundings) (Q : List Deed → Outcome → Cache → Prop) (ds : List Deed) :
    Thread σ → Cache → Prop
  | .ready p, c => ∀ c', S.caches c c' → p.Does S (S.Lasting Q) ds c'
  | .paused (.asleep _ p), c => ∀ c', S.caches c c' → p.Does S (S.Lasting Q) ds c'
  | .paused (.queued _ p), c => ∀ c', S.caches c c' → p.Does S (S.Lasting Q) ds c'
  | .paused (.awaiting _ r finish next), c => ∀ c' s, S.caches c c' →
    (next (finish s).value).Does S (S.Lasting Q) (ds ++ [.heard ⟨r, (finish s).value⟩]) c'
  | .paused (.ended o), c => S.Lasting Q ds o c

namespace Thread

variable {Q : List Deed → Outcome → Cache → Prop} {ds : List Deed} {x : Thread σ} {c c' : Cache}

theorem Does.moves (h : x.Does S Q ds c) (hc : S.caches c c') : x.Does S Q ds c' := by
  match x with
  | .ready _ => exact fun c'' hc' => h c'' (S.trans hc hc')
  | .paused (.asleep _ _) => exact fun c'' hc' => h c'' (S.trans hc hc')
  | .paused (.queued _ _) => exact fun c'' hc' => h c'' (S.trans hc hc')
  | .paused (.awaiting _ _ _ _) => exact fun c'' s hc' => h c'' s (S.trans hc hc')
  | .paused (.ended _) => exact fun c'' hc' => h c'' (S.trans hc hc')

theorem Does.grant (h : x.Does S Q ds c) : x.grant.Does S Q ds c := by
  rcases x.grant_cases with hg | ⟨l, p, rfl, hg⟩
  · rwa [hg]
  · exact h

theorem Does.ended {o : Outcome} (h : x.Does S Q ds c) (ho : x.outcome? = some o) : Q ds o c := by
  rw [eq_ended ho] at h
  exact h c (S.refl c)

theorem Does.wake {w w' : World σ} {i : Nat} {p : Flow Outcome} (h : x.Does S Q ds (w.caches i))
    (hw : x.wake? w = some (p, w')) :
    p.Does S (S.Lasting Q) (ds ++ (x.received w).map .heard) (w'.caches i) := by
  rcases wake?_eq_some hw with ⟨rfl, rfl⟩ | ⟨ms, rfl, rfl⟩ | ⟨ms, r, finish, next, rfl, rfl, rfl⟩
  · simpa [received] using h _ (S.refl _)
  · simpa [received] using h _ (S.refl _)
  · exact h _ w.catalog (S.refl _)

end Thread

theorem Command.Performs.gives (hS : S.Admits catalog) {now : Nat} {place : Place}
    {self : ThreadId} {c : Command} {a : c.Answer} {w w' : World σ} {woken : List ThreadId}
    (h : c.Performs catalog now place self w a w' woken) :
    c.Gives S (w.caches place.cache) a (w'.caches place.cache) := by
  cases h with
  | readCache => exact ⟨rfl, rfl⟩
  | changeCache x => simp [Command.Gives, Data.changeCache]
  | @request r reply hv =>
      have hanswer := hS now r w.catalog
      rw [hv] at hanswer
      exact ⟨hanswer, S.refl _⟩
  | sleep => exact S.refl _
  | acquire _ => exact S.refl _
  | _ => rfl

/-- A thread that goes on until it waits has done what its flow does. -/
theorem Flow.Advances.does (hS : S.Admits catalog) {Q : List Deed → Outcome → Cache → Prop}
    {ds more : List Deed} {now : Nat} {place : Place} {self : ThreadId} {p : Flow Outcome}
    {w : World σ} {q : Progress σ Outcome} (hadv : p.Advances catalog now place self w more q)
    (h : p.Does S (S.Lasting Q) ds (w.caches place.cache)) :
    Thread.Does S Q (ds ++ more) (.paused q.pause) (q.world.caches place.cache) := by
  induction hadv generalizing ds with
  | ended o w =>
      rw [List.append_nil]
      exact h
  | asleep next w => exact fun c' hc => h () c' hc
  | queued next _ => exact fun c' hc => h () c' hc
  | @awaiting r ms finish next w hv =>
      intro c' s hc
      have hanswer := hS now r w.catalog
      rw [hv] at hanswer
      rw [List.append_assoc]
      exact h _ c' ⟨hanswer s, hc⟩
  | @heldUp c next a l rest w w' woken hperf hlock =>
      intro c' hc b c'' hc'
      have hnext := h a _ (hperf.gives hS)
      rw [hlock] at hnext
      exact hnext b c'' (S.trans hc hc')
  | step hperf _ ih =>
      rw [← List.append_assoc]
      exact ih (h _ _ (hperf.gives hS))

/-! ## Jobs -/

inductive Errand where
  | resolve (k : Container) (rs : List Requirement)
  | remove (k : Container) (id : String)

namespace Errand

def isResolve : Errand → Bool
  | .resolve .. => true
  | .remove .. => false

def container : Errand → Container
  | .resolve k _ => k
  | .remove k _ => k

def flow (p : Provisioner) : Errand → Flow Outcome
  | .resolve k rs => p.survey k rs
  | .remove k id => p.remove k id

def job (p : Provisioner) (place : Place) (e : Errand) : Job σ :=
  .start p e.container place (e.flow p)

/-- What a thread has done when it has ended, by its number, when the cache was `start` at first and
the first thread has left some requirements. -/
def Ends (S : Surroundings) (p : Provisioner) (e : Errand) (start : Cache)
    (rest : List Requirement) : Nat → List Deed → Outcome → Cache → Prop
  | 0 =>
    match e with
    | .resolve k rs => Surveyed S p k rs start
    | .remove k id => fun ds o _ => Removed p k id ds o
  | n + 1 => fun ds o c => ∃ f, rest[n]? = some f ∧ p.Attempted S e.container f ds o c

theorem flow_does (p : Provisioner) (e : Errand) {start c : Cache} (hc : S.caches start c) :
    (e.flow p).Does S (S.Lasting (e.Ends S p start [] 0)) [] c := by
  cases e with
  | resolve k rs => exact p.survey_does k rs hc
  | remove k id => exact p.remove_does k id

theorem Ends.audited {p : Provisioner} {e : Errand} {start c : Cache} {rest : List Requirement}
    {n : Nat} {ds : List Deed} {o : Outcome} (h : e.Ends S p start rest n ds o c) :
    Audited p.attempts ds o := by
  cases n with
  | succ n =>
      obtain ⟨f, -, hf, -⟩ := h
      exact hf.audited.1
  | zero =>
      cases e with
      | resolve k rs => exact (Surveyed.audited h).1
      | remove k id => exact (Removed.audited h).1

def judgement (S : Surroundings) (p : Provisioner) (e : Errand) (start : Cache)
    (ds : Nat → List Deed) (c : Cache) : Job.Judgement σ where
  holds rest n x := x.Does S (e.Ends S p start rest n) (ds n) c
  first h := h
  closed h ho := by
    obtain ⟨f, -, hf, -⟩ := h.ended ho
    exact hf.closed

end Errand

/-- The job of an errand, with what each of its threads has done. -/
def Job.Does (S : Surroundings) (p : Provisioner) (place : Place) (e : Errand) (start : Cache)
    (ds : Nat → List Deed) (t : Job σ) (c : Cache) : Prop :=
  t.Holds p e.container place (e.judgement S p start ds c)

theorem Job.Does.thread {p : Provisioner} {place : Place} {e : Errand} {start c : Cache}
    {ds : Nat → List Deed} {t : Job σ} (h : t.Does S p place e start ds c) {n : Nat} {x : Thread σ}
    (hx : t.threads[n]? = some x) : x.Does S (e.Ends S p start t.rest n) (ds n) c :=
  h.threads n x hx

namespace Pool

variable {others : World σ → World σ → Prop} {p₀ pool pool' : Pool σ} {n : Nat} {ds : Chronicle}
  {p : Provisioner} {place : Place} {e : Errand} {start : Cache} {i : Nat}

/-- Surroundings for all runs from a pool: the catalog answers, and caches change, as they say. -/
structure Surrounded (S : Surroundings) (catalog : Catalog σ) (others : World σ → World σ → Prop)
    (p₀ : Pool σ) : Prop where
  admits : S.Admits catalog
  goes : ∀ {n ds p id more p'}, Run catalog others p₀ n ds p → p.Goes catalog id more p' →
    ∀ i, S.caches (p.world.caches i) (p'.world.caches i)
  others : ∀ {n ds p w}, Run catalog others p₀ n ds p → others p.world w →
    ∀ i, S.caches (p.world.caches i) (w.caches i)

theorem surrounded_any (catalog : Catalog σ) (others : World σ → World σ → Prop) (p₀ : Pool σ) :
    Surrounded .any catalog others p₀ where
  admits := Surroundings.any_admits catalog
  goes _ _ _ := trivial
  others _ _ _ := trivial

/-- Whichever thread goes on, it has done what it does then, and the others nothing. -/
theorem Goes.does (hS : S.Admits catalog) {id : ThreadId} {more : List Deed}
    (hgoes : pool.Goes catalog id more pool')
    (hcaches : S.caches (pool.world.caches place.cache) (pool'.world.caches place.cache))
    (hsilent : ∀ id, pool.thread? id = none → deedsOf id ds = [])
    (h : ∀ t, pool.jobs[i]? = some t →
      t.Does S p place e start (fun n => deedsOf ⟨i, n⟩ ds) (pool.world.caches place.cache))
    {t' : Job σ} (ht' : pool'.jobs[i]? = some t') :
    t'.Does S p place e start (fun n => deedsOf ⟨i, n⟩ (ds ++ mark id more))
      (pool'.world.caches place.cache) := by
  refine hgoes.holds ht' h (fun hx => Thread.Does.grant hx) (fun {rest n x} hne hx => ?_)
    (fun {rest x flow w now ds' q} hi hx hwake hadv hmore hworld => ?_)
    (fun {rest n f} hne hnew hf => ?_)
  · show x.Does S (e.Ends S p start rest n) (deedsOf ⟨i, n⟩ (ds ++ mark id more)) _
    rw [deedsOf_of_ne hne]
    exact Thread.Does.moves hx hcaches
  · subst hi hmore
    show Thread.Does S (e.Ends S p start rest id.thread) (deedsOf id (ds ++ mark id _)) _ _
    rw [deedsOf_self, ← List.append_assoc, hworld]
    exact hadv.does hS (Thread.Does.wake hx hwake)
  · show (Thread.ready (p.ensure e.container f) : Thread σ).Does S
      (e.Ends S p start rest (n + 1)) (deedsOf ⟨i, n + 1⟩ (ds ++ mark id more)) _
    rw [deedsOf_of_ne hne, hsilent _ hnew]
    intro c' _
    exact (p.ensure_does e.container f).mono fun ds o c h c' hc => ⟨f, hf, h c' hc⟩

/-- In every run of an errand the ends of its threads are told by what they have done. -/
theorem Run.does (hrun : Run catalog others p₀ n ds pool) (hS : Surrounded S catalog others p₀)
    (hi : p₀.jobs[i]? = some (e.job p place)) {t : Job σ} (ht : pool.jobs[i]? = some t) :
    t.Does S p place e (p₀.world.caches place.cache) (fun n => deedsOf ⟨i, n⟩ ds)
      (pool.world.caches place.cache) := by
  induction hrun generalizing t with
  | start =>
      obtain rfl : e.job p place = t := Option.some.inj (hi.symm.trans ht)
      exact Job.holds_start fun c hc => e.flow_does p hc
  | goes hrun hgoes ih =>
      exact hgoes.does hS.admits (hS.goes hrun hgoes place.cache) (fun _ => hrun.silent)
        (fun t ht => ih ht) ht
  | others hrun hw ih =>
      have hdoes := ih ht
      refine ⟨hdoes.provisioner, hdoes.container, hdoes.place, hdoes.accounted, fun n x hx => ?_⟩
      exact (hdoes.thread hx).moves (hS.others hrun hw place.cache)

/-- When all errands are finished, the accounts of each thread are in order. -/
theorem Run.audited {w : World σ} {es : List Errand}
    (hrun : Run catalog others ⟨w, es.map (Errand.job p place)⟩ n ds pool)
    (hf : ∀ t ∈ pool.jobs, t.isFinished = true) (id : ThreadId) :
    ∃ o, Audited p.attempts (deedsOf id ds) o := by
  cases hx : pool.thread? id with
  | none =>
      rw [hrun.silent hx]
      exact ⟨.ok [], .nil, rfl, Nat.le_refl 0, by simp⟩
  | some x =>
      obtain ⟨t, ht, hx⟩ := Option.bind_eq_some_iff.1 hx
      have hlt : id.job < es.length := by
        have hlen := hrun.length_jobs
        rw [List.length_map] at hlen
        exact hlen ▸ (List.getElem?_eq_some_iff.1 ht).1
      have hjob : (es.map (Errand.job p place) : List (Job σ))[id.job]? =
          some (es[id.job].job p place) := by simp [hlt]
      have hdoes := hrun.does (surrounded_any catalog others _) hjob ht
      obtain ⟨o, ho⟩ :=
        (hdoes.accounted.ended_of_finished (hf t (List.mem_of_getElem? ht))).2 _ x hx
      exact ⟨o, ((hdoes.thread hx).ended ho).audited⟩

end Pool

/-! ## Resolves -/

theorem Resolve.job_eq (r : Resolve) :
    (r.job : Job σ) = Errand.job r.provisioner r.place (.resolve r.container r.requirements) := rfl

/-- No resolve has anything forgotten, so what the others rely on stays known. -/
theorem surrounded_sincere (hcatalog : catalog.Sincere) (outside : σ → σ → Prop) (w : World σ)
    (rs : List Resolve) :
    Pool.Surrounded .sincere catalog (InCatalog outside) (resolving w rs) where
  admits := hcatalog
  goes hrun hgoes := (((resolving_keeps w rs).run hrun).1.goes hgoes).2.grows
  others := by
    rintro n ds p _ - ⟨s, -, rfl⟩ i
    exact .refl _

theorem Pool.Run.resolve_does {outside : σ → σ → Prop} {n : Nat} {ds : Chronicle} {w : World σ}
    {rs : List Resolve} {pool : Pool σ} (hcatalog : catalog.Sincere)
    (hrun : Run catalog (InCatalog outside) (resolving w rs) n ds pool) {i : Nat} {r : Resolve}
    (hr : rs[i]? = some r) {t : Job σ} (ht : pool.jobs[i]? = some t) :
    t.Does .sincere r.provisioner r.place (.resolve r.container r.requirements)
      (w.caches r.place.cache) (fun n => deedsOf ⟨i, n⟩ ds) (pool.world.caches r.place.cache) :=
  hrun.does (surrounded_sincere hcatalog outside w rs) (by simp [resolving, hr, r.job_eq]) ht

end Provision
end DocQuery
