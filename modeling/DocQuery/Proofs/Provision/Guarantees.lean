import DocQuery.Proofs.Catalog.Memory
import DocQuery.Proofs.Provision.Chronicles
import DocQuery.Proofs.Provision.Exchanges
import DocQuery.Proofs.Provision.Parts
import DocQuery.Service

/-! # What a resolve guarantees whatever the catalog answers

Nothing is assumed of the catalog but that a create that it grants is answered with a record of the
id that was asked for. A resolve then always finishes; it loses nothing that was known before and
leaves other containers alone. What it has provided is known from then on, so that further resolves
need not ask the catalog until somebody has it forgotten. And once the container has been listed, a
function that cannot be provided does not keep the others from being provided; the resolve fails
with the error of the one that was required first.
-/

namespace DocQuery.Provision

open Catalog (Memory)

variable {σ : Type} {catalog : Catalog σ} {place : Place}

/-! ## Resolves finish -/

/-- A contract that asks for order among locks only. -/
def lenient : Contract σ where
  inv := fun _ => True
  change := fun _ _ _ => True
  atRest := fun _ _ => True
  atRest_change := fun _ _ _ => trivial

theorem Flow.Every.safe {α : Type} {k : Container} {p : Flow α} {Q : α → Prop}
    (h : p.Every (Command.Stores k) Q) {s : Stance} (hs : s.Settled) (d : Data σ) :
    p.Safe lenient catalog place (fun s' a _ => s' = s ∧ Q a) s d := by
  induction p generalizing d with
  | done a => exact ⟨rfl, h⟩
  | step c next ih =>
      cases c with
      | readCache => exact ih _ (h.2 _) _
      | catalogName => exact ih _ (h.2 _) _
      | changeCache c => exact ⟨trivial, ih _ (h.2 _) _⟩
      | count c => exact ⟨trivial, ih _ (h.2 _) _⟩
      | report e => exact ⟨trivial, ih _ (h.2 _) _⟩
      | sleep ms => exact ⟨hs, trivial, fun d' _ _ => ih _ (h.2 _) d'⟩
      | request r =>
          refine ⟨hs, fun now => ⟨trivial, ?_⟩⟩
          cases (catalog.submit now r d.catalog).value with
          | now reply => exact ih _ (h.2 _) _
          | later ms finish => exact ⟨trivial, fun d' _ _ => ⟨trivial, ih _ (h.2 _) _⟩⟩
      | fetchLock key => cases h.1
      | acquire l => cases h.1
      | release l => cases h.1
      | discard key l => cases h.1

def lenientDuty (catalog : Catalog σ) (r : Resolve) : Duty lenient catalog where
  provisioner := r.provisioner
  container := r.container
  place := r.place
  first := fun _ _ => True
  each := fun _ o _ => o.toOption.getD [] = []
  closed := fun h => h
  follow := by
    intro rs d _ hi f _
    refine r.provisioner.ensure_safe hi fun l d' _ _ _ => ?_
    refine ((r.provisioner.ensureLocked_stores r.container f).safe
      (Stance.settled_holder _ l) d').mono ?_
    rintro s o d'' ⟨rfl, ho⟩
    exact ⟨rfl, trivial, trivial, fun _ _ => ho⟩

theorem lenientDuty_fits (r : Resolve) : Fits (lenientDuty catalog) r where
  provisioner := rfl
  container := rfl
  place := rfl
  first := by
    intro d _
    refine ((r.provisioner.survey_stores r.container r.requirements).safe
      Stance.settled_idle d).mono ?_
    rintro s o d' ⟨rfl, -⟩
    exact ⟨rfl, trivial, fun _ _ => trivial⟩

/-! ## A resolve of what is known -/

def Resolve.hit (r : Resolve) (w : World σ) : World σ :=
  let counted := w.count r.place.site .fastPathHits
  { w with toData := counted.report (.allCached r.container r.requirements.length) }

theorem Resolve.survey_known {r : Resolve} {w : World σ}
    (h : ∀ f ∈ r.requirements, (w.caches r.place.cache).has r.container f.id = true) {now : Nat}
    {self : ThreadId} {ds : List Deed} {q : Progress σ Outcome}
    (hadv : (r.provisioner.survey r.container r.requirements).Advances catalog now r.place self w
      ds q) : q = ⟨.ended (.ok []), r.hit w, []⟩ ∧ ∀ req, Deed.sent req ∉ ds := by
  have hempty := Cache.missing_isEmpty_iff.2 h
  obtain ⟨f, hsurvey, hnext⟩ : ∃ f : Cache → Flow Outcome,
      r.provisioner.survey r.container r.requirements = .step .readCache f ∧
      f (w.caches r.place.cache) = .step (.count .fastPathHits) fun _ =>
        .step (.report (.allCached r.container r.requirements.length)) fun _ =>
          .done (.ok []) := by
    refine ⟨_, rfl, ?_⟩
    dsimp only [Flow.bind]
    rw [if_pos hempty]
    rfl
  rw [hsurvey] at hadv
  -- Nothing on the way waits for a lock, so that the flow is not held up.
  cases hadv with
  | heldUp hperf hlock =>
      cases hperf
      cases hnext.symm.trans hlock
  | step hperf hrest =>
      cases hperf
      rw [hnext] at hrest
      cases hrest with
      | heldUp _ hlock => cases hlock
      | step hperf hrest =>
          cases hperf
          cases hrest with
          | heldUp _ hlock => cases hlock
          | step hperf hrest =>
              cases hperf
              cases hrest
              exact ⟨rfl, by simp [Command.deeds]⟩

theorem Resolve.advance_survey (catalog : Catalog σ) {r : Resolve} {w : World σ}
    (h : ∀ f ∈ r.requirements, (w.caches r.place.cache).has r.container f.id = true) (now : Nat)
    (self : ThreadId) :
    (r.provisioner.survey r.container r.requirements).advance catalog now r.place self w =
      ⟨.ended (.ok []), r.hit w, []⟩ :=
  (r.survey_known h (Flow.advances _ w)).1

def Resolve.hitJob (r : Resolve) : Job σ :=
  { (r.job : Job σ) with threads := [.paused (.ended (.ok []))], taken := 1 }

namespace Pool

theorem settleJob_hit (r : Resolve) (j : Nat) :
    settleJob ⟨j, 0⟩ (.ended (.ok [])) [] j (r.job : Job σ) = r.hitJob := by
  simp [settleJob, settle, Job.mapThreads, Resolve.job, Job.start, Job.collect, Job.refill,
    Resolve.hitJob, Thread.endedFirst, Thread.outcome?, Except.toOption]

/-- A resolve that is about to begin can do so, and is finished as soon as it does, without asking
the catalog, and changes nothing but a counter. -/
def Immediate (q : Pool σ) (r : Resolve) (j : Nat) : Prop :=
  ∃ t : Job σ, t.isFinished = true ∧ t.result = .ok () ∧
    ∀ (catalog : Catalog σ),
      (∀ now, q.resume? catalog now ⟨j, 0⟩ = some (⟨r.hit q.world, q.jobs.set j t⟩, [])) ∧
        ∀ ds q', q.Goes catalog ⟨j, 0⟩ ds q' →
          q' = ⟨r.hit q.world, q.jobs.set j t⟩ ∧ ∀ req, Deed.sent req ∉ ds

theorem immediate {q : Pool σ} {r : Resolve} {j : Nat} (hj : q.jobs[j]? = some r.job)
    (h : ∀ f ∈ r.requirements, (q.world.caches r.place.cache).has r.container f.id = true) :
    q.Immediate r j := by
  have hthread : (r.job : Job σ).threads[0]? =
      some (.ready (r.provisioner.survey r.container r.requirements)) := rfl
  have hafter : q.after ⟨j, 0⟩ ⟨.ended (.ok []), r.hit q.world, []⟩ =
      ⟨r.hit q.world, q.jobs.set j r.hitJob⟩ := by
    rw [after_of_woken_nil hj rfl, settleJob_hit]
  refine ⟨r.hitJob, rfl, rfl, fun catalog => ⟨fun now => ?_, fun ds q' hgoes => ?_⟩⟩
  · have hplace : (r.job : Job σ).place = r.place := rfl
    rw [resume?_eq hj hthread rfl, hplace, r.advance_survey catalog h, hafter]
  · cases hgoes with
    | @on t x flow w now ds p ht hx hwake hadv =>
        obtain rfl : r.job = t := Option.some.inj (hj.symm.trans ht)
        obtain rfl := Option.some.inj (hthread.symm.trans hx)
        obtain ⟨rfl, rfl⟩ := Prod.mk.inj (Option.some.inj hwake)
        obtain ⟨rfl, hsent⟩ := r.survey_known h hadv
        exact ⟨hafter, by simpa [Thread.received] using hsent⟩

end Pool

/-! ## While nothing is to be forgotten -/

theorem reportAll_every {P : Command → Prop} (hP : ∀ e, P (.report e)) (es : List Event) :
    (Service.reportAll es).Every P fun _ => True := by
  induction es with
  | nil => trivial
  | cons e es ih => exact ⟨hP e, fun _ => ih⟩

theorem flow_keeps (s : Service) {call : Service.Call} (hcall : ∀ id k, call ≠ .remove id k) :
    (s.flow call).Every (Command.Keeps call.container) fun _ => True := by
  have hsurvey : ∀ k rs, (s.provisioner.survey k rs).Every (Command.Keeps k) fun _ => True :=
    fun k rs => (s.provisioner.survey_stores k rs).mono (fun _ => Or.inr) fun _ h => h
  cases call with
  | compile q => exact (reportAll_every (fun _ => Or.inr rfl) _).bind fun _ _ => trivial
  | prepare q k =>
      refine (reportAll_every (fun _ => Or.inr rfl) _).bind fun _ _ => ?_
      split
      · split
        · trivial
        · exact hsurvey k _
      · trivial
  | resolve rs k => exact hsurvey k rs
  | remove id k => exact absurd rfl (hcall id k)

/-- What can happen while nobody has anything forgotten: threads go on, calls begin that are not for
removals, records are stored in caches, and all else changes at will. -/
inductive Undisturbed (p : Pool σ) : Pool σ → Prop
  | start : Undisturbed p p
  | goes {p' p'' : Pool σ} {catalog : Catalog σ} {id : ThreadId} {ds : List Deed} :
      Undisturbed p p' → p'.Goes catalog id ds p'' → Undisturbed p p''
  | call {p' : Pool σ} (s : Service) {call : Service.Call} :
      Undisturbed p p' → (∀ id k, call ≠ .remove id k) →
      Undisturbed p { p' with jobs := p'.jobs ++ [s.job call] }
  | store {p' : Pool σ} (i : Nat) {k : Container} {change : Cache.Change} :
      Undisturbed p p' → change.Stores k →
      Undisturbed p { p' with world := { p'.world with toData := p'.world.changeCache i change } }
  | elsewhere {p' : Pool σ} {w : World σ} :
      Undisturbed p p' → w.caches = p'.world.caches → Undisturbed p { p' with world := w }

theorem Undisturbed.keeps {p q : Pool σ} (h : Undisturbed p q) (hp : p.Keeps fun _ _ => True) :
    q.Keeps (fun _ _ => True) ∧ Remembers (fun _ _ => True) p.world.caches q.world.caches := by
  induction h with
  | start => exact ⟨hp, .refl _⟩
  | goes _ hgoes ih =>
      have hnext := ih.1.goes hgoes
      exact ⟨hnext.1, ih.2.trans hnext.2⟩
  | call s _ hcall ih =>
      refine ⟨fun t ht => ?_, ih.2⟩
      rcases List.mem_append.1 ht with ht | ht
      · exact ih.1 t ht
      · obtain rfl := List.mem_singleton.1 ht
        exact Job.keeps_start trivial (flow_keeps s hcall)
  | store i _ hs ih => exact ⟨ih.1, ih.2.trans (.store hs trivial _)⟩
  | elsewhere _ hw ih =>
      refine ⟨ih.1, ?_⟩
      rw [hw]
      exact ih.2

/-! ## What the end of a resolve says -/

def firstError : List Outcome → Except Error Unit
  | [] => .ok ()
  | .error e :: _ => .error e
  | .ok _ :: os => firstError os

/-- The attempts of a resolve at some functions, one after the other: what was done in each, and
that its function is known if it succeeded. -/
structure Attempts (r : Resolve) (ds : Nat → List Deed) (missing : List Requirement)
    (outcomes : List Outcome) (c : Cache) : Prop where
  length_eq : outcomes.length = missing.length
  attempted : ∀ (n : Nat) (f : Requirement) (o : Outcome), missing[n]? = some f →
    outcomes[n]? = some o → Provided r.provisioner r.container f (ds (n + 1)) o ∧
      (o = .ok [] → c.has r.container f.id = true)

/-- What was attempted is known if the catalog can be taken at its word and the cache forgets
nothing. -/
theorem Provisioner.Attempted.known {p : Provisioner} {k : Container} {f : Requirement}
    {ds : List Deed} {o : Outcome} {c : Cache} (h : p.Attempted .sincere k f ds o c)
    (ho : o = .ok []) : c.has k f.id = true := by
  obtain ⟨seen, hseen, hgrows⟩ := h.2 ho fun _ hrecord => hrecord
  exact hgrows k f.id hseen

namespace Job

variable {r : Resolve} {start c : Cache} {ds : Nat → List Deed} {t : Job σ}

/-- The ends of some threads; one that is under way has not failed. -/
def outcomes (ts : List (Thread σ)) : List Outcome := ts.map fun x => x.outcome?.getD (.ok [])

theorem firstError_outcomes (ts : List (Thread σ)) :
    firstError (outcomes ts) = (ts.findSome? Thread.error?).elim (.ok ()) .error := by
  induction ts with
  | nil => rfl
  | cons x ts ih =>
      cases ho : x.outcome? with
      | none => simpa [outcomes, firstError, Thread.error?, ho] using ih
      | some o =>
          cases o with
          | ok rs => simpa [outcomes, firstError, Thread.error?, ho] using ih
          | error e => simp [outcomes, firstError, Thread.error?, ho]

/-- A finished resolve has made a survey and attempted all that it left, and fails with the first
error among them. -/
theorem Does.finished
    (h : t.Does .sincere r.provisioner r.place (.resolve r.container r.requirements) start ds c)
    (hf : t.isFinished = true) :
    ∃ o os, Surveyed .sincere r.provisioner r.container r.requirements start (ds 0) o c ∧
      Attempts r ds (o.toOption.getD []) os c ∧ t.result = firstError (o :: os) := by
  obtain ⟨hlength, hended⟩ := h.accounted.ended_of_finished hf
  have htaken : t.taken = t.threads.length := by
    have hbooks : t.backlog = [] ∧ t.taken = t.threads.length := by simpa [isFinished] using hf
    exact hbooks.2
  cases hts : t.threads with
  | nil => exact absurd hts h.accounted.begun
  | cons x xs =>
      have hx : t.threads[0]? = some x := by simp [hts]
      obtain ⟨o, ho⟩ := hended 0 x hx
      have hrest : t.rest = o.toOption.getD [] := rest_eq (by simp [htaken, hts]) hx ho
      -- Results are taken in the order of the threads, whichever ended first.
      have hresult : t.result = firstError (outcomes t.threads) := by
        have hfailure := h.accounted.failure
        rw [htaken, List.take_length] at hfailure
        rw [firstError_outcomes, result, hfailure]
        cases t.threads.findSome? Thread.error? with
        | none => rfl
        | some e => rfl
      refine ⟨o, outcomes xs, (h.thread hx).ended ho, ⟨?_, fun n f o' hf' ho' => ?_⟩, ?_⟩
      · rw [← hrest]
        simp only [outcomes, List.length_map]
        rw [hts, List.length_cons] at hlength
        omega
      · simp only [outcomes, List.getElem?_map, Option.map_eq_some_iff] at ho'
        obtain ⟨x', hx', rfl⟩ := ho'
        have hthread : t.threads[n + 1]? = some x' := by simpa [hts] using hx'
        obtain ⟨o', ho'⟩ := hended (n + 1) x' hthread
        obtain ⟨f', hf'', hattempted⟩ := (h.thread hthread).ended ho'
        rw [hrest, hf'] at hf''
        obtain rfl := Option.some.inj hf''
        rw [ho']
        exact ⟨hattempted.1, hattempted.known⟩
      · rw [hresult, hts]
        simp [outcomes, ho]

end Job

theorem eq_ok_of_firstError {os : List Outcome} (h : firstError os = .ok ()) {o : Outcome}
    (ho : o ∈ os) : ∃ rs, o = .ok rs := by
  induction os with
  | nil => cases ho
  | cons o' os ih =>
      cases o' with
      | error e => cases h
      | ok rs =>
          rcases List.mem_cons.1 ho with rfl | ho
          · exact ⟨rs, rfl⟩
          · exact ih h ho

/-- The second search is only among what the first one missed, which changes nothing. -/
theorem missing_refreshed {seen seen' : Cache} (h : seen.Grows seen') (k : Container)
    (records : List Record) (rs : List Requirement) :
    seen.Grows (seen'.apply (.merge k records)) ∧
      (seen'.apply (.merge k records)).missing k (seen.missing k rs) =
        (seen'.apply (.merge k records)).missing k rs := by
  have hmerge : (Cache.Change.merge k records).Stores k := rfl
  have hgrows := h.trans (.store hmerge seen')
  exact ⟨hgrows, Cache.missing_missing (hgrows k) rs⟩

/-- A survey that got a listing leaves what was not known when the listing had been remembered. -/
theorem Surveyed.of_listed {p : Provisioner} {k : Container} {rs : List Requirement}
    {start c : Cache} {ds : List Deed} {o : Outcome}
    (h : Surveyed .sincere p k rs start ds o c) {records : List Record}
    (hlisted : .heard ⟨.list k, .ok records⟩ ∈ ds) :
    ∃ known : Cache, start.Grows known ∧ (∀ record ∈ records, known.has k record.id = true) ∧
      known.Grows c ∧ o = .ok (known.missing k (Requirement.dedup rs)) := by
  rw [← mem_exchanges] at hlisted
  cases h with
  | known _ _ _ => cases hlisted
  | unsupported _ _ => cases hlisted
  | unlisted ht => cases ht.tried_attempts.eq_of_mem (by simpa using hlisted)
  | @listed _ records' seen seen' _ _ name e ht hstart hseen hc hmissing _ =>
      obtain rfl : records' = records :=
        Except.ok.inj (ht.tried_attempts.eq_of_mem (by simpa using hlisted))
      obtain ⟨hgrows, hleft⟩ := missing_refreshed hseen k records' (Requirement.dedup rs)
      refine ⟨_, hstart.trans hgrows, fun record hr => ?_, hc, by rw [hmissing, hleft]⟩
      exact (Cache.has_merge seen' k k records' record.id).2 (Or.inr ⟨rfl, record, hr, rfl⟩)

/-- A resolve that succeeded knows everything that was required. -/
theorem Job.Does.known {r : Resolve} {start c : Cache} {ds : Nat → List Deed} {t : Job σ}
    (h : t.Does .sincere r.provisioner r.place (.resolve r.container r.requirements) start ds c)
    (hf : t.isFinished = true) (hok : t.result = .ok ()) {f : Requirement}
    (hm : f ∈ r.requirements) : c.has r.container f.id = true := by
  obtain ⟨o, os, hsurvey, hattempts, hresult⟩ := h.finished hf
  rw [hok] at hresult
  have hsucceeded : ∀ {o'}, o' ∈ o :: os → ∃ rs, o' = .ok rs := eq_ok_of_firstError hresult.symm
  have hdone : ∀ f ∈ o.toOption.getD [], c.has r.container f.id = true := by
    intro f hf
    obtain ⟨n, hn⟩ := List.mem_iff_getElem?.1 hf
    have hlt : n < os.length := hattempts.length_eq ▸ (List.getElem?_eq_some_iff.1 hn).1
    have ho := List.getElem?_eq_getElem hlt
    obtain ⟨hattempt, hknown⟩ := hattempts.attempted n f _ hn ho
    obtain ⟨rs, hrs⟩ := hsucceeded (List.mem_cons_of_mem o (List.getElem_mem hlt))
    have hclosed := hattempt.closed
    rw [hrs] at hclosed hknown
    obtain rfl : rs = [] := hclosed
    exact hknown rfl
  generalize ds 0 = survey at hsurvey
  cases hsurvey with
  | known _ hall hgrows => exact hgrows _ _ (hall f hm)
  | unsupported ids _ => cases hresult
  | unlisted ht => cases hresult
  | @listed _ records seen seen' _ missing name e ht _ hseen hc hmissing _ =>
      rw [(missing_refreshed hseen r.container records _).2] at hmissing
      rcases (Cache.lacks_missing _ r.container r.requirements).complete f hm with
        hf | ⟨f', hf, hid⟩
      · exact hc _ _ hf
      · exact hid ▸ hdone f' (hmissing ▸ hf)

/-! ## The guarantees -/

/-- What a finished resolve guarantees by its result. After a success everything that was required
is known, and as long as nothing is to be forgotten every resolve of the same functions is
immediate. If the container could be listed, every function that was still missing then has been
attempted, those whose attempts succeeded are known, and the result is the first error in the order
in which the functions were required. -/
structure Assures (r : Resolve) (start : Cache) (ds : Nat → List Deed)
    (result : Except Error Unit) (p : Pool σ) : Prop where
  known : result = .ok () → ∀ f ∈ r.requirements,
    (p.world.caches r.place.cache).has r.container f.id = true
  lasting : result = .ok () → ∀ (q : Pool σ) (r' : Resolve) (j : Nat), Undisturbed p q →
    q.jobs[j]? = some r'.job → r'.container = r.container → r'.place.cache = r.place.cache →
    (∀ f ∈ r'.requirements, ∃ g ∈ r.requirements, g.id = f.id) → q.Immediate r' j
  persevering : ∀ records : List Record, .heard ⟨.list r.container, .ok records⟩ ∈ ds 0 →
    ∃ (known : Cache) (missing : List Requirement) (outcomes : List Outcome),
      start.Grows known ∧ (∀ record ∈ records, known.has r.container record.id = true) ∧
        known.Grows (p.world.caches r.place.cache) ∧
        known.Lacks r.container r.requirements missing ∧
        Attempts r ds missing outcomes (p.world.caches r.place.cache) ∧
        result = firstError outcomes

theorem Job.Does.assures {r : Resolve} {start : Cache} {ds : Nat → List Deed} {t : Job σ}
    {p : Pool σ} (hkeeps : p.Keeps fun _ _ => True)
    (h : t.Does .sincere r.provisioner r.place (.resolve r.container r.requirements) start ds
      (p.world.caches r.place.cache)) (hf : t.isFinished = true) :
    Assures r start ds t.result p where
  known := fun hok f hm => h.known hf hok hm
  lasting := by
    intro hok q r' j hq hj hk hcache hids
    obtain ⟨-, hremembers⟩ := hq.keeps hkeeps
    refine Pool.immediate hj fun f hm => ?_
    obtain ⟨g, hg, hid⟩ := hids f hm
    rw [hk, hcache, ← hid]
    exact hremembers.grows _ _ _ (h.known hf hok hg)
  persevering := by
    intro records hlisted
    obtain ⟨o, os, hsurvey, hattempts, hresult⟩ := h.finished hf
    obtain ⟨known, hstart, hrecords, hgrows, rfl⟩ := hsurvey.of_listed hlisted
    exact ⟨known, _, os, hstart, hrecords, hgrows, known.lacks_missing _ _, hattempts, hresult⟩

/-- Resolves of any provisioners, side by side, against any catalog whose creates can be taken at
their word and that others change at will. They finish after a bounded number of steps, at the
latest when no thread can go on. At every moment no cache has lost anything, and nothing has changed
but in their containers at their caches. And each that is finished keeps its guarantees. -/
theorem resolves_keep_guarantees (hcatalog : catalog.Sincere) {w : World σ}
    (hlocks : ∀ i, (w.locks i).InOrder fun _ => .idle) {rs : List Resolve}
    {n : Nat} {ds : Chronicle} {p : Pool σ}
    (hrun : Pool.Run catalog (InCatalog fun _ _ => True) (resolving w rs) n ds p) :
    n ≤ totalSteps rs ∧
    ((∀ now id, p.resume? catalog now id = none) → ∀ t ∈ p.jobs, t.isFinished = true) ∧
    Remembers (fun i k => ∃ r ∈ rs, r.place.cache = i ∧ r.container = k) w.caches
      p.world.caches ∧
    ∀ (i : Nat) (r : Resolve), rs[i]? = some r → ∃ t, p.jobs[i]? = some t ∧
      (t.isFinished = true →
        Assures r (w.caches r.place.cache) (fun n => deedsOf ⟨i, n⟩ ds) t.result p) := by
  have hfits : ∀ r ∈ rs, Fits (lenientDuty catalog) r := fun r _ => lenientDuty_fits r
  have hsafe := resolving_safe hfits trivial (fun _ => trivial) hlocks
  obtain ⟨hn, hfin⟩ := resolving_finishes hsafe (fun _ _ _ _ => ⟨trivial, trivial⟩) hrun
  obtain ⟨hkeeps, hremembers⟩ := (resolving_keeps w rs).run hrun
  refine ⟨hn, hfin, hremembers, fun i r hr => ?_⟩
  obtain ⟨t, ht⟩ := hrun.exists_job_iff.2 ⟨r, hr⟩
  refine ⟨t, ht, fun hf => ?_⟩
  exact (hrun.resolve_does hcatalog hr ht).assures
    (fun t ht => ⟨trivial, (hkeeps t ht).threads⟩) hf

/-- A resolve that wants a second function too, and does not take over what exists. -/
def strict : Resolve :=
  { Resolve.lone 1 with
    provisioner := ⟨{ (default : Settings) with recoverConflicts := false }⟩
    requirements := [⟨"f", "body"⟩, ⟨"g", "body"⟩] }

def Exchange.lists (k : Container) : Exchange → Bool
  | ⟨.list k', .ok _⟩ => decide (k' = k)
  | ⟨.list _, .error _⟩ => false
  | ⟨.create _ _, _⟩ => false
  | ⟨.delete _ _, _⟩ => false

theorem Exchange.eq_of_lists {k : Container} {x : Exchange} (h : x.lists k = true) :
    ∃ records : List Record, x = ⟨.list k, .ok records⟩ := by
  obtain ⟨r, reply⟩ := x
  cases r with
  | list k' =>
      cases reply with
      | ok records =>
          obtain rfl : k' = k := by simpa [lists] using h
          exact ⟨records, rfl⟩
      | error e => cases h
  | create k' f => cases h
  | delete k' id => cases h

/-- Both list the collection before either creates a function. One of them is too late for the first
function, and provides the second all the same. -/
theorem strict_perseveres : ∃ n ds p t,
    Pool.Run Memory.catalog (InCatalog fun _ _ => True)
        (resolving { catalog := slowMemory } [.lone 0, strict]) n ds p ∧
      p.jobs[1]? = some t ∧ t.isFinished = true ∧
      t.failure = some (.create strict.container "f" (.conflict strict.container "f")) ∧
      (p.world.caches 0).has strict.container "f" = true ∧
      (p.world.caches 1).has strict.container "g" = true ∧
      ∃ (known : Cache) (missing : List Requirement) (outcomes : List Outcome),
        known.Lacks strict.container strict.requirements missing ∧
          Attempts strict (fun n => deedsOf ⟨1, n⟩ ds) missing outcomes (p.world.caches 1) ∧
          t.result = firstError outcomes := by
  have hend : ((resolving { catalog := slowMemory } [.lone 0, strict]).replay Memory.catalog []
      [⟨0, 0⟩, ⟨1, 0⟩, ⟨0, 0⟩, ⟨1, 0⟩, ⟨0, 1⟩, ⟨1, 1⟩, ⟨1, 2⟩, ⟨0, 1⟩, ⟨1, 1⟩, ⟨1, 2⟩]).any
      (fun (ds, p) => p.jobs.all Job.isFinished &&
        decide (p.jobs.map Job.failure =
          [none, some (.create strict.container "f" (.conflict strict.container "f"))]) &&
        (p.world.caches 1).has strict.container "g" &&
        (exchanges (deedsOf ⟨1, 0⟩ ds)).any (Exchange.lists strict.container)) = true := by
    decide +kernel
  obtain ⟨n, ds, p, hrun, hend⟩ := Pool.Run.of_replay (InCatalog fun _ _ => True) hend
  simp only [Bool.and_eq_true, decide_eq_true_eq, List.all_eq_true, List.any_eq_true] at hend
  obtain ⟨⟨⟨hfinished, hfailures⟩, hsecond⟩, x, hx, hlists⟩ := hend
  obtain ⟨records, rfl⟩ := Exchange.eq_of_lists hlists
  obtain ⟨-, -, -, hresults⟩ := resolves_keep_guarantees
    (Memory.catalog_atomic.serving False).sincere (fun _ => LockTable.inOrder_empty) hrun
  obtain ⟨t, ht, hlone⟩ := hresults 0 (.lone 0) rfl
  obtain ⟨t', ht', hstrict⟩ := hresults 1 strict rfl
  have hfailure : ∀ {i : Nat} {t : Job Memory}, p.jobs[i]? = some t → some t.failure =
      [none, some (Error.create strict.container "f" (.conflict strict.container "f"))][i]? :=
    fun hi => by rw [← hfailures, List.getElem?_map, hi, Option.map_some]
  have hok : t.result = .ok () := by
    rw [Job.result, Option.some.inj (hfailure ht)]
  have hassures := hstrict (hfinished t' (List.mem_of_getElem? ht'))
  obtain ⟨known, missing, outcomes, -, -, -, hlacks, hattempts, hresult⟩ :=
    hassures.persevering records (mem_exchanges.1 hx)
  exact ⟨n, ds, p, t', hrun, ht', hfinished t' (List.mem_of_getElem? ht'),
    Option.some.inj (hfailure ht'),
    (hlone (hfinished t (List.mem_of_getElem? ht))).known hok _ List.mem_cons_self, hsecond,
    known, missing, outcomes, hlacks, hattempts, hresult⟩

end DocQuery.Provision
