import DocQuery.Proofs.Provision.Chronicles
import DocQuery.Proofs.Provision.Exchanges
import DocQuery.Proofs.Provision.Racing

/-! # Lost answers

A catalog may lose answers, whether or not it has served the request. Resolves that take over what
exists are none the worse for it, as long as one try of each request is answered: a function whose
creation was not confirmed is in the way of the next try, and is found in the listing that follows.
When all tries are lost, a resolve says so, and has done no damage.
-/

namespace DocQuery.Provision

open Catalog (Effect Memory Reply Request Serving)

variable {σ : Type} {catalog : Catalog σ} {memory : σ → Memory} {used : Nat → Prop}
  {live : Container → Prop}

def Exhausted (attempts : Nat) (heard : List Exchange) : Prop :=
  ∃ r lost, lost <:+: heard ∧ lost.length = attempts ∧ ∀ x ∈ lost, x.Lost r

def Error.IsLoss : Error → Prop
  | .list _ cause => cause.isTransient = true
  | .create _ _ cause => cause.isTransient = true
  | _ => False

/-! ## Tries that were used up -/

section

variable {attempts : Nat} {r r' : Request} {tries tries' heard : List Exchange}

theorem Tried.exhausted_of_infix {cause : Catalog.Error}
    (h : Tried attempts r tries (.error cause)) (hcause : cause.isTransient = true)
    (hin : tries <:+: heard) : Exhausted attempts heard := by
  obtain ⟨hlength, hlost⟩ := h.all_lost rfl hcause
  exact ⟨r, tries, hin, hlength, hlost⟩

def Definite (reply : Reply r) : Prop :=
  ∀ e : Catalog.Error, reply = .error e → e.isTransient = false

/-- A definite answer takes one of the tries. -/
theorem Tried.false_of_lost {reply : Reply r} (h : Tried attempts r tries reply)
    (hdefinite : Definite reply) {lost : List Exchange} (hsub : lost.Sublist tries)
    (hlength : lost.length = attempts) (hlost : ∀ x ∈ lost, x.Lost r') : False := by
  have hle := h.length_le
  obtain rfl : lost = tries := hsub.eq_of_length_le (by omega)
  obtain ⟨before, rfl, -⟩ := h.lost
  obtain ⟨e, he, htransient⟩ := hlost ⟨r, reply⟩ (by simp)
  cases he
  rw [hdefinite e rfl] at htransient
  cases htransient

theorem not_exhausted_of_length {attempts : Nat} {heard : List Exchange}
    (h : heard.length < attempts) : ¬ Exhausted attempts heard := by
  rintro ⟨r, lost, hin, hlength, -⟩
  have hle := hin.length_le
  omega

theorem Tried.not_exhausted {reply : Reply r} (h : Tried attempts r tries reply)
    (hdefinite : Definite reply) : ¬ Exhausted attempts tries :=
  fun ⟨_, _, hin, hlength, hlost⟩ => h.false_of_lost hdefinite hin.sublist hlength hlost

/-- Tries of different requests do not add up. -/
theorem Tried.not_exhausted_append {reply : Reply r} {reply' : Reply r'}
    (h : Tried attempts r tries reply) (hdefinite : Definite reply)
    (h' : Tried attempts r' tries' reply') (hdefinite' : Definite reply') (hne : r ≠ r') :
    ¬ Exhausted attempts (tries ++ tries') := by
  rintro ⟨r₀, lost, hin, hlength, hlost⟩
  have hrequest : ∀ x ∈ lost, x.request = r₀ := fun x hx => by
    obtain ⟨e, rfl, -⟩ := hlost x hx
    rfl
  obtain ⟨front, back, rfl, hfront, hback⟩ := List.sublist_append_iff.1 hin.sublist
  cases back with
  | nil =>
      rw [List.append_nil] at hlength hlost
      exact h.false_of_lost hdefinite hfront hlength hlost
  | cons x back =>
      have hr' : r' = r₀ := by
        rw [← h'.request_eq (hback.subset List.mem_cons_self)]
        exact hrequest x (by simp)
      cases front with
      | nil => exact h'.false_of_lost hdefinite' hback hlength hlost
      | cons y front =>
          have hr : r = r₀ := by
            rw [← h.request_eq (hfront.subset List.mem_cons_self)]
            exact hrequest y (by simp)
          -- Lost tries on both sides would be of both requests.
          exact hne (hr.trans hr'.symm)

end

section

variable {S : Surroundings} {p : Provisioner} {k : Container} {rs rest : List Requirement}
  {start c : Cache} {ds : List Deed} {e : Error}

theorem definite_ok {r : Request} (a : r.Result) : Definite (.ok a : Reply r) :=
  fun _ h => nomatch h

theorem definite_of_isConflict {r : Request} {cause : Catalog.Error}
    (h : cause.isConflict = true) : Definite (.error cause : Reply r) := by
  intro e he
  obtain rfl := Except.error.inj he
  cases cause <;> simp_all [Catalog.Error.isConflict, Catalog.Error.isTransient]

theorem Provided.exhausted {f : Requirement} (h : Provided p k f ds (.error e)) (he : e.IsLoss) :
    Exhausted p.attempts (exchanges ds) := by
  cases h with
  | refused ht _ => exact ht.tried_attempts.exhausted_of_infix he (by simp)
  | @unseen _ _ cause _ _ _ hrec _ =>
      have hdefinite := definite_of_isConflict (r := .list k) (Bool.and_eq_true_iff.1 hrec).1
      have htransient : cause.isTransient = true := he
      rw [hdefinite cause rfl] at htransient
      cases htransient
  | unlisted _ _ ht =>
      refine ht.tried_attempts.exhausted_of_infix he ?_
      simpa using (List.suffix_append _ _).isInfix

theorem Provided.not_exhausted {f : Requirement} (h : Provided p k f ds (.ok rest)) :
    ¬ Exhausted p.attempts (exchanges ds) := by
  cases h with
  | found => exact not_exhausted_of_length p.attempts_pos
  | created ht => simpa using ht.tried_attempts.not_exhausted (definite_ok _)
  | recovered name ht hrec ht' =>
      have hconflict := (Bool.and_eq_true_iff.1 hrec).1
      simpa using ht.tried_attempts.not_exhausted_append (definite_of_isConflict hconflict)
        ht'.tried_attempts (definite_ok _) (by simp)

theorem Surveyed.exhausted (h : Surveyed S p k rs start ds (.error e) c) (he : e.IsLoss) :
    Exhausted p.attempts (exchanges ds) := by
  cases h with
  | unsupported ids _ => exact he.elim
  | unlisted ht => exact ht.tried_attempts.exhausted_of_infix he (by simp)

theorem Surveyed.not_exhausted (h : Surveyed S p k rs start ds (.ok rest) c) :
    ¬ Exhausted p.attempts (exchanges ds) := by
  cases h with
  | known _ _ _ => exact not_exhausted_of_length p.attempts_pos
  | listed name event ht _ _ _ _ _ =>
      simpa using ht.tried_attempts.not_exhausted (definite_ok _)

end

namespace Job.Does

variable {S : Surroundings} {r : Resolve} {start c : Cache} {ds : Nat → List Deed} {t : Job σ}

/-- A resolve that failed because of a loss has a thread all of whose tries were lost. -/
theorem exhausted {e : Error}
    (h : t.Does S r.provisioner r.place (.resolve r.container r.requirements) start ds c)
    (hf : t.isFinished = true) (hresult : t.result = .error e) (he : e.IsLoss) :
    ∃ i, Exhausted r.provisioner.attempts (exchanges (ds i)) := by
  rcases h.accounted.result_of_finished hf with ⟨e', he', i, x, hx, ho⟩ | ⟨hok, -⟩
  · obtain rfl : e = e' := Except.error.inj (hresult.symm.trans he')
    have hends := (h.thread hx).ended ho
    refine ⟨i, ?_⟩
    cases i with
    | zero => exact Surveyed.exhausted hends he
    | succ i =>
        obtain ⟨f, -, hprovided, -⟩ := hends
        exact hprovided.exhausted he
  · rw [hok] at hresult
    cases hresult

theorem not_exhausted
    (h : t.Does S r.provisioner r.place (.resolve r.container r.requirements) start ds c)
    (hsilent : ∀ i, t.threads[i]? = none → ds i = []) (hf : t.isFinished = true)
    (hok : t.result = .ok ()) (i : Nat) :
    ¬ Exhausted r.provisioner.attempts (exchanges (ds i)) := by
  rcases h.accounted.result_of_finished hf with ⟨e, he, -⟩ | ⟨-, hall⟩
  · rw [hok] at he
    cases he
  · cases hx : t.threads[i]? with
    | none =>
        rw [hsilent i hx]
        exact not_exhausted_of_length r.provisioner.attempts_pos
    | some x =>
        obtain ⟨rs, ho⟩ := hall i x hx
        have hends := (h.thread hx).ended ho
        cases i with
        | zero => exact Surveyed.not_exhausted hends
        | succ i =>
            obtain ⟨f, -, hprovided, -⟩ := hends
            exact hprovided.not_exhausted

end Job.Does

/-! ## Resolves against a catalog that loses answers -/

/-- A resolve that takes over what exists can fail only because of a loss. -/
theorem racingDuty_loss {hat : Serving True catalog memory} {r : Resolve} {d : Data σ} {e : Error}
    (hl : live r.container) (hrecover : r.provisioner.settings.recoverConflicts = true)
    (h : (racingDuty hat used live r).Kept (.error e) d) :
    ∃ reason, e = .list r.container (.transport reason) ∨
      ∃ f ∈ r.requirements, e = .create r.container f.id (.transport reason) := by
  have hreason : ∀ {cause : Catalog.Error}, cause.Lost True → ∃ reason, cause = .transport reason :=
    fun {cause} hlost => by
      cases cause with
      | transport reason => exact ⟨reason, rfl⟩
      | _ => cases hlost.2
  rcases h with hfirst | ⟨f, rest, hfirst, hm, heach⟩
  · obtain ⟨cause, hlost, rfl⟩ := hfirst hl
    obtain ⟨reason, rfl⟩ := hreason hlost
    exact ⟨reason, Or.inl rfl⟩
  · rcases heach hl with ⟨hoff, -⟩ | ⟨cause, hlost, he⟩
    · rw [hrecover] at hoff
      cases hoff
    · obtain ⟨reason, rfl⟩ := hreason hlost
      rcases he with rfl | rfl
      · exact ⟨reason, Or.inr ⟨f, hfirst.1 f hm, rfl⟩⟩
      · exact ⟨reason, Or.inl rfl⟩

/-- What the result of a resolve says when answers can be lost. It fails exactly if all tries of a
request were lost. After a success every function that is required stands in the catalog once, and
its record in the cache. A failure says that an answer was lost. -/
structure Tolerates (memory : σ → Memory) (r : Resolve) (heard : Nat → List Exchange)
    (result : Except Error Unit) (d : Data σ) : Prop where
  succeeds : result = .ok () ↔ ∀ i, ¬ Exhausted r.provisioner.attempts (heard i)
  known : result = .ok () → ∀ f ∈ r.requirements, ∃ record,
    (d.caches r.place.cache).get? r.container f.id = some record ∧
      ((memory d.catalog).functions r.container.link).filter (·.id = f.id) = [record]
  fails : ∀ {e}, result = .error e → ∃ reason, e = .list r.container (.transport reason) ∨
    ∃ f ∈ r.requirements, e = .create r.container f.id (.transport reason)

theorem racingDuty_tolerates {hat : Serving True catalog memory} {r : Resolve} {S : Surroundings}
    {ds : Nat → List Deed} {start : Cache} {t : Job σ} {d : Data σ}
    (hl : live r.container) (hrecover : r.provisioner.settings.recoverConflicts = true)
    (hc : Coherent (memory d.catalog) (d.caches r.place.cache))
    (hd : (memory d.catalog).Distinct) (hf : t.isFinished = true)
    (hdoes : t.Does S r.provisioner r.place (.resolve r.container r.requirements) start ds
      (d.caches r.place.cache))
    (hsilent : ∀ i, t.threads[i]? = none → ds i = [])
    (h : (racingDuty hat used live r).Kept t.result d) :
    Tolerates memory r (fun i => exchanges (ds i)) t.result d := by
  cases hresult : t.result with
  | ok _ =>
      rw [hresult] at h
      have hnone := hdoes.not_exhausted hsilent hf hresult
      exact ⟨⟨fun _ => hnone, fun _ => rfl⟩, fun _ f hf => racingDuty_known hc hd h hf, by simp⟩
  | error e =>
      rw [hresult] at h
      obtain ⟨reason, he⟩ := racingDuty_loss hl hrecover h
      have hloss : e.IsLoss := by
        rcases he with rfl | ⟨f, -, rfl⟩
        · exact rfl
        · exact rfl
      obtain ⟨i, hi⟩ := hdoes.exhausted hf hresult hloss
      exact ⟨⟨nofun, fun hnone => (hnone i hi).elim⟩, nofun,
        fun he' => Except.error.inj he' ▸ ⟨reason, he⟩⟩

/-- Resolves that take over what exists, against a catalog that may lose any answer. However they
run, they finish after a bounded number of steps; at every moment no id is registered twice and
every record in their caches is that of the catalog; and their results are as losses allow. -/
theorem lost_answers_are_tolerated (hat : Serving True catalog memory) {w : World σ}
    {rs : List Resolve} (hdistinct : (memory w.catalog).Distinct)
    (hcoherent : ∀ r ∈ rs, Coherent (memory w.catalog) (w.caches r.place.cache))
    (hlocks : ∀ i, (w.locks i).InOrder fun _ => .idle)
    (hlive : ∀ r ∈ rs, ∃ fs, (memory w.catalog).hosted r.container = .ok fs)
    (hrecover : ∀ r ∈ rs, r.provisioner.settings.recoverConflicts = true)
    {n : Nat} {ds : Chronicle} {p : Pool σ}
    (hrun : Pool.Run catalog (InCatalog (Seeded memory)) (resolving w rs) n ds p) :
    n ≤ totalSteps rs ∧
    ((∀ now id, p.resume? catalog now id = none) → ∀ t ∈ p.jobs, t.isFinished = true) ∧
    (memory p.world.catalog).Distinct ∧
    (∀ r ∈ rs, Coherent (memory p.world.catalog) (p.world.caches r.place.cache)) ∧
    ∀ (i : Nat) (r : Resolve), rs[i]? = some r → ∃ t, p.jobs[i]? = some t ∧
      (t.isFinished = true →
        Tolerates memory r (fun n => exchanges (deedsOf ⟨i, n⟩ ds)) t.result p.world.toData) := by
  have hinv : (growth memory (fun i => ∃ r ∈ rs, r.place.cache = i)
      fun k => ∃ r ∈ rs, r.container = k).inv w.toData := by
    refine ⟨?_, ?_⟩
    · rintro i ⟨r, hr, rfl⟩
      exact hcoherent r hr
    · rintro k ⟨r, hr, rfl⟩
      exact hlive r hr
  have hsafe := resolving_safe (fun r (_ : r ∈ rs) => racingDuty_fits hat r) hinv
    (fun _ => trivial) hlocks
  obtain ⟨hn, hfin⟩ := resolving_finishes hsafe growth_seeded hrun
  obtain ⟨⟨stance, hend⟩, hrely⟩ := hsafe.run growth_seeded hrun
  have hd := (Grown.of_rely hrely).catalog.distinct hdistinct
  have hc : ∀ r ∈ rs, Coherent (memory p.world.catalog) (p.world.caches r.place.cache) :=
    fun r hr => hend.inv.1 _ ⟨r, hr, rfl⟩
  refine ⟨hn, hfin, hd, hc, fun i r hr => ?_⟩
  have hm := List.mem_of_getElem? hr
  obtain ⟨t, ht, hres⟩ := resolving_result hsafe growth_seeded hrun hr
  refine ⟨t, ht, fun hf => ?_⟩
  exact racingDuty_tolerates ⟨r, hm, rfl⟩ (hrecover r hm) (hc r hm) hd hf
    (hrun.resolve_does hat.sincere hr ht)
    (fun i hi => hrun.silent ((Pool.thread?_eq ht i).trans hi)) (hres hf)

inductive Fate where
  | answered
  | unsent
  | unconfirmed

/-- A memory at the end of a bad line, on which the fates of requests are laid down. -/
def badLine : Catalog (Memory × List Fate) where
  name := Memory.catalog.name
  submit := fun _ r s =>
    let served := s.1.serve r
    let lost : Reply r := .error (.transport "connection reset")
    match s.2.headD .answered with
    | .answered => ⟨.now served.value, (served.state, s.2.tail), served.events⟩
    | .unsent => ⟨.now lost, (s.1, s.2.tail), []⟩
    | .unconfirmed => ⟨.now lost, (served.state, s.2.tail), served.events⟩

theorem badLine_serving : Serving True badLine Prod.fst := by
  intro r now s
  have hlost : ∃ e : Catalog.Error, e.Lost True ∧
      (.error (.transport "connection reset") : Reply r) = .error e := ⟨_, ⟨trivial, rfl⟩, rfl⟩
  simp only [badLine]
  cases s.2.headD .answered with
  | answered => exact ⟨s, rfl, Or.inl ⟨rfl, rfl⟩⟩
  | unsent => exact ⟨s, rfl, Or.inr ⟨hlost, Or.inl rfl⟩⟩
  | unconfirmed => exact ⟨s, rfl, Or.inr ⟨hlost, Or.inr rfl⟩⟩

/-- A line on which the first listing and the creation of a function are not confirmed; the function
is then in the way, and the listing that would show it does not get through at first. -/
def badWorld : World (Memory × List Fate) :=
  { catalog := (Memory.ofLinks ["c"] 0,
      [.unconfirmed, .answered, .unconfirmed, .answered, .unsent, .answered]) }

def patient : Resolve :=
  { Resolve.lone 0 with provisioner := ⟨{ (default : Settings) with retryAttempts := 6 }⟩ }

theorem patient_tolerates_losses : ∃ n ds p t,
    Pool.Run badLine (InCatalog (Seeded Prod.fst)) (resolving badWorld [patient]) n ds p ∧
      (exchanges (deedsOf ⟨0, 0⟩ ds)).length = 2 ∧ (exchanges (deedsOf ⟨0, 1⟩ ds)).length = 4 ∧
      p.jobs[0]? = some t ∧ t.isFinished = true ∧ t.result = .ok () ∧
      ∀ f ∈ patient.requirements, ∃ record,
        (p.world.caches 0).get? patient.container f.id = some record ∧
          (p.world.catalog.1.functions "c").filter (·.id = f.id) = [record] := by
  have hend : ((resolving badWorld [patient]).replay badLine []
      [⟨0, 0⟩, ⟨0, 0⟩, ⟨0, 1⟩, ⟨0, 1⟩, ⟨0, 1⟩]).any
      (fun (ds, p) => decide ((exchanges (deedsOf ⟨0, 0⟩ ds)).length = 2) &&
        decide ((exchanges (deedsOf ⟨0, 1⟩ ds)).length = 4) &&
        p.jobs.all fun t => t.isFinished && t.threads.length = 2) = true := by
    decide +kernel
  obtain ⟨n, ds, p, hrun, hend⟩ := Pool.Run.of_replay (InCatalog (Seeded Prod.fst)) hend
  obtain ⟨⟨hfirst, hsecond⟩, hjobs⟩ : ((exchanges (deedsOf ⟨0, 0⟩ ds)).length = 2 ∧
      (exchanges (deedsOf ⟨0, 1⟩ ds)).length = 4) ∧
      ∀ t ∈ p.jobs, t.isFinished = true ∧ t.threads.length = 2 := by
    simpa only [Bool.and_eq_true, decide_eq_true_eq, List.all_eq_true] using hend
  have hpatient : ∀ {r : Resolve}, r ∈ [patient] → r = patient := List.mem_singleton.1
  obtain ⟨-, -, -, -, hresults⟩ := lost_answers_are_tolerated badLine_serving
    (Memory.distinct_ofLinks _ _) (fun _ _ => .empty _) (fun _ => LockTable.inOrder_empty)
    (fun r hr => ⟨[], hpatient hr ▸ rfl⟩) (fun r hr => hpatient hr ▸ rfl) hrun
  obtain ⟨t, ht, htolerates⟩ := hresults 0 patient rfl
  obtain ⟨hf, hthreads⟩ := hjobs t (List.mem_of_getElem? ht)
  have hnone : ∀ i, ¬ Exhausted 6 (exchanges (deedsOf ⟨0, i⟩ ds)) := by
    intro i
    refine not_exhausted_of_length ?_
    match i with
    | 0 => omega
    | 1 => omega
    | i + 2 =>
        have hno : p.thread? ⟨0, i + 2⟩ = none := by
          rw [Pool.thread?_eq ht]
          exact List.getElem?_eq_none (by omega)
        rw [hrun.silent hno]
        exact Nat.zero_lt_succ _
  have hok := (htolerates hf).succeeds.2 hnone
  exact ⟨n, ds, p, t, hrun, hfirst, hsecond, ht, hf, hok, (htolerates hf).known hok⟩

end DocQuery.Provision
