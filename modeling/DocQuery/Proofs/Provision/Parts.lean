import DocQuery.Proofs.Cache
import DocQuery.Proofs.Catalog.Phases
import DocQuery.Proofs.Provision.Threads

/-! # Rules for parts of an operation

What holds of a single try, wherever it is made, holds of a request that is tried until it has a
definite answer: an answer that allows another try has to leave things as they may be before a try.
And what holds of providing a function under its lock holds of providing it, and what holds of a
listing, of finding out what is missing.
-/

namespace DocQuery.Provision

open Catalog (Reply Request)

variable {σ α : Type} {C : Contract σ} {catalog : Catalog σ} {place : Place} {s : Stance}

/-- Counting and reporting are allowed and change nothing that matters. -/
structure Unaffected (C : Contract σ) (place : Place) (s : Stance) (P : Data σ → Prop) : Prop where
  count : ∀ {d}, P d → ∀ c, C.change (s.held place) d (d.count place.site c) ∧
    P (d.count place.site c)
  report : ∀ {d}, P d → ∀ e, C.change (s.held place) d (d.report e) ∧ P (d.report e)

/-- A contract to which only the catalog and the caches matter. -/
structure Contract.Quiet (C : Contract σ) : Prop where
  change : ∀ held {d d' : Data σ}, d'.catalog = d.catalog → d'.caches = d.caches →
    C.change held d d'
  inv : ∀ {d d' : Data σ}, d'.catalog = d.catalog → d'.caches = d.caches → C.inv d → C.inv d'

theorem Contract.Quiet.unaffected (hC : C.Quiet) {P : Data σ → Prop}
    (hP : ∀ d d', d'.catalog = d.catalog → d'.caches = d.caches → P d → P d') :
    Unaffected C place s P where
  count := fun {d} h _ => ⟨hC.change _ rfl rfl, hP d _ rfl rfl h⟩
  report := fun {d} h _ => ⟨hC.change _ rfl rfl, hP d _ rfl rfl h⟩

/-- A request, by what it does when it is sent, when it is served, and while its answer is held
back. `J` is what lasts from sending to serving, and `Q` what lasts from then on; if answers can be
held back, others have to be left what they count on. -/
theorem request_safe {r : Request} {sends rests : σ → σ → Prop} {serves : Reply r → σ → σ → Prop}
    (hphased : catalog.Phased r sends serves rests) (hs : s.Settled) {d : Data σ}
    {J : Data σ → Prop} {Q : Reply r → Data σ → Prop}
    (htrans : ∀ {d₁ d₂ d₃}, C.change (s.held place) d₁ d₂ → C.change (s.held place) d₂ d₃ →
      C.change (s.held place) d₁ d₃)
    (hsend : ∀ d', d'.caches = d.caches → sends d.catalog d'.catalog →
      C.change (s.held place) d d' ∧ C.inv d' ∧ J d')
    (hserve : ∀ d₁ d₂ reply, d₂.caches = d₁.caches → serves reply d₁.catalog d₂.catalog →
      C.inv d₁ → J d₁ → C.change (s.held place) d₁ d₂ ∧ Q reply d₂)
    (hrest : ∀ d₁ d₂ reply, d₂.caches = d₁.caches → rests d₁.catalog d₂.catalog →
      Q reply d₁ → C.inv d₁ ∧ C.change (s.held place) d₁ d₂ ∧ Q reply d₂)
    (hJ : ∀ d₁ d₂, J d₁ → C.Rely (s.held place) d₁ d₂ → C.inv d₂ → J d₂)
    (hQ : ∀ d₁ d₂ reply, Q reply d₁ → C.Rely (s.held place) d₁ d₂ → C.inv d₂ → Q reply d₂) :
    (Flow.request r).Safe C catalog place (fun s' a d' => s' = s ∧ Q a d') s d := by
  refine ⟨hs, fun now => ?_⟩
  have hp := hphased now d.catalog
  dsimp only at hp ⊢
  have harrive : ∀ reply s', sends d.catalog s' →
      serves reply s' (catalog.submit now r d.catalog).state →
      C.change (s.held place) d (d.absorb (catalog.submit now r d.catalog)) ∧
        Q reply (d.absorb (catalog.submit now r d.catalog)) := by
    intro reply s' hsends hserves
    obtain ⟨hc, hi, hj⟩ := hsend { d with catalog := s' } rfl hsends
    obtain ⟨hc', hq⟩ := hserve { d with catalog := s' }
      (d.absorb (catalog.submit now r d.catalog)) reply rfl hserves hi hj
    exact ⟨htrans hc hc', hq⟩
  cases hv : (catalog.submit now r d.catalog).value with
  | now reply =>
      rw [hv] at hp
      obtain ⟨s', hsends, hserves⟩ := hp
      obtain ⟨hc, hq⟩ := harrive reply s' hsends hserves
      exact ⟨hc, rfl, hq⟩
  | later ms finish =>
      rw [hv] at hp
      rcases hp with ⟨hsends, hserves⟩ | ⟨reply, s', hsends, hserves, hleave⟩
      · obtain ⟨hc, hi, hj⟩ := hsend (d.absorb (catalog.submit now r d.catalog)) rfl hsends
        refine ⟨hc, hi, fun d' hr hi' => ?_⟩
        obtain ⟨hc', hq⟩ := hserve d' (d'.absorb (finish d'.catalog)) _ rfl
          (hserves d'.catalog) hi' (hJ _ _ hj hr hi')
        exact ⟨hc', rfl, hq⟩
      · obtain ⟨hc, hq⟩ := harrive reply s' hsends hserves
        have hleave' : ∀ d', Q reply d' → C.inv d' ∧
            C.change (s.held place) d' (d'.absorb (finish d'.catalog)) ∧
            Q reply (d'.absorb (finish d'.catalog)) := fun d' =>
          hrest d' (d'.absorb (finish d'.catalog)) reply rfl (hleave d'.catalog).2
        refine ⟨hc, (hleave' _ hq).1, fun d' hr hi' => ?_⟩
        obtain ⟨-, hc', hq'⟩ := hleave' d' (hQ _ _ _ hq hr hi')
        refine ⟨hc', rfl, ?_⟩
        rw [(hleave d'.catalog).1]
        exact hq'

/-- The tries from some number on. `J` is what every try can count on, and `Q` what every answer
means. -/
theorem runAux_safe (policy : RetryPolicy) {act : Flow (Except Catalog.Error α)}
    {operation : Operation} {J : Data σ → Prop} {Q : Except Catalog.Error α → Data σ → Prop}
    (hs : s.Settled) (hJ : Unaffected C place s J) (hQ : ∀ a, Unaffected C place s (Q a))
    (hinv : ∀ d, J d → C.inv d)
    (hrely : ∀ d d', J d → C.Rely (s.held place) d d' → C.inv d' → J d')
    (hact : ∀ d, J d → act.Safe C catalog place (fun s' a d =>
      s' = s ∧ Q a d ∧ ∀ e, a = .error e → e.isTransient = true → J d) s d)
    (left attempt : Nat) {d : Data σ} (hd : J d) :
    (policy.runAux act Provisioner.classify
      (fun e n => Flow.report (.retrying operation n e)) Flow.sleep left attempt).Safe C catalog
        place (fun s' a d => s' = s ∧ Q (a.mapError RetryFailure.cause) d) s d := by
  induction left generalizing attempt d with
  | zero =>
      refine Flow.safe_seq ((hact d hd).mono ?_)
      rintro s' a d ⟨rfl, hq, -⟩
      cases a with
      | ok a => exact ⟨rfl, hq⟩
      | error e =>
          simp only [Provisioner.classify]
          cases e.isTransient with
          | false => exact ⟨rfl, hq⟩
          | true => exact Flow.safe_count ((hQ _).count hq _).1 ⟨rfl, ((hQ _).count hq _).2⟩
  | succ left ih =>
      refine Flow.safe_seq ((hact d hd).mono ?_)
      rintro s' a d ⟨rfl, hq, ht⟩
      cases a with
      | ok a => exact ⟨rfl, hq⟩
      | error e =>
          simp only [Provisioner.classify]
          cases he : e.isTransient with
          | false => exact ⟨rfl, hq⟩
          | true =>
              obtain ⟨hc, hj⟩ := hJ.count (ht e rfl he) .transientFailures
              obtain ⟨hc', hj'⟩ := hJ.report hj (.retrying operation (attempt + 1) e)
              refine Flow.safe_count hc (Flow.safe_report hc' ?_)
              exact Flow.safe_sleep hs (hinv _ hj') fun d' hr hi => ih _ (hrely _ _ hj' hr hi)

namespace Provisioner

/-- A request that is tried until it has a definite answer means what each answer means. -/
theorem persist_safe (p : Provisioner) {operation : Operation} {counter : Option Counter}
    {r : Request}
    {J : Data σ → Prop} {Q : Reply r → Data σ → Prop}
    (hs : s.Settled) (hJ : Unaffected C place s J) (hQ : ∀ a, Unaffected C place s (Q a))
    (hinv : ∀ d, J d → C.inv d)
    (hrely : ∀ d d', J d → C.Rely (s.held place) d d' → C.inv d' → J d')
    (hact : ∀ d, J d → (Flow.request r).Safe C catalog place (fun s' a d =>
      s' = s ∧ Q a d ∧ ∀ e, a = .error e → e.isTransient = true → J d) s d)
    {d : Data σ} (hd : J d) :
    (p.persist operation counter r).Safe C catalog place (fun s' a d => s' = s ∧ Q a d)
      s d := by
  refine Flow.safe_seq ((runAux_safe _ hs hJ hQ hinv hrely (fun d hd => ?_) _ 0 hd).mono ?_)
  · cases counter with
    | none => exact hact d hd
    | some c => exact Flow.safe_count (hJ.count hd c).1 (hact _ (hJ.count hd c).2)
  · rintro s' a d ⟨rfl, hq⟩
    exact ⟨rfl, hq⟩

/-- Providing a function waits for its lock, and gives it back with its key at rest. -/
theorem ensure_safe (p : Provisioner) {k : Container} {f : Requirement}
    {Q : Outcome → Data σ → Prop} {d : Data σ} (hi : C.inv d)
    (hlocked : ∀ l d', C.Rely none d d' → C.inv d' → C.atRest (place.site, k, f.id) d' →
      (p.ensureLocked k f).Safe C catalog place (fun s o d => s = .holder (k, f.id) l ∧
        C.atRest (place.site, k, f.id) d ∧ C.inv d ∧ ∀ d', C.Rely none d d' → Q o d')
        (.holder (k, f.id) l) d') :
    (p.ensure k f).Safe C catalog place (Ends C Q) .idle d := by
  refine Flow.safe_fetchLock fun l => Flow.safe_acquire hi fun d' hr hi' ha => ?_
  refine Flow.safe_seq ((hlocked l d' hr hi' ha).mono ?_)
  rintro s o d ⟨rfl, ha, hi, hq⟩
  exact Flow.safe_release ha (Flow.safe_discard (Flow.safe_pure ⟨rfl, hi, hq⟩))

/-- Finding out what is missing, by what it promises when everything is known, when the container
cannot have functions, and after a listing. -/
theorem survey_ends (p : Provisioner) (hC : C.Quiet) {k : Container} {rs : List Requirement}
    {Q : Outcome → Data σ → Prop}
    (hstable : ∀ {o d d'}, Q o d → C.Rely none d d' → Q o d') {d : Data σ} (hi : C.inv d)
    (hcached : (∀ r ∈ rs, (d.caches place.cache).has k r.id = true) → Q (.ok []) d)
    (hhosts : k.hostsFunctions = false → ∀ ids, Q (.error (.unsupportedContainer k ids)) d)
    (hrefresh : (p.refresh k).Safe C catalog place (fun s' o d' => s' = .idle ∧ C.inv d' ∧
      (∀ id, (d.caches place.cache).has k id = true → (d'.caches place.cache).has k id = true) ∧
      match o with
      | .error e => Q (.error e) d'
      | .ok () => ∀ rest : List Requirement,
        (∀ r ∈ rest, r ∈ rs ∧ (d'.caches place.cache).has k r.id = false) →
        (∀ r ∈ rs, (d'.caches place.cache).has k r.id = true ∨ ∃ r' ∈ rest, r'.id = r.id) →
        Q (.ok rest) d') .idle d) :
    (p.survey k rs).Safe C catalog place (Ends C Q) .idle d := by
  have hends : ∀ {o d₁ d₂}, C.inv d₁ → Q o d₁ → d₂.catalog = d₁.catalog → d₂.caches = d₁.caches →
      Ends C Q .idle o d₂ := fun hi hq hs hc =>
    ⟨rfl, hC.inv hs hc hi, fun _ hr =>
      hstable hq (.trans (.single (Or.inl rfl) (hC.change none hs hc)) hr)⟩
  refine Flow.safe_readCache ?_
  dsimp only
  by_cases hempty : ((d.caches place.cache).missing k (Requirement.dedup rs)).isEmpty = true
  · rw [if_pos hempty]
    have hknown := Cache.missing_isEmpty_iff.1 hempty
    exact Flow.safe_count (hC.change _ rfl rfl) (Flow.safe_report (hC.change _ rfl rfl)
      (Flow.safe_pure (hends hi (hcached hknown) rfl rfl)))
  · rw [if_neg hempty]
    by_cases hhost : (!k.hostsFunctions) = true
    · rw [if_pos hhost]
      exact Flow.safe_count (hC.change _ rfl rfl) (Flow.safe_pure
        (hends hi (hhosts (by simpa using hhost) _) rfl rfl))
    · rw [if_neg hhost]
      refine Flow.safe_seq (hrefresh.mono ?_)
      rintro s' o d' ⟨rfl, hi', hmore, ho⟩
      cases o with
      | error e => exact hends hi' ho rfl rfl
      | ok _ =>
          refine Flow.safe_readCache ?_
          have hlacks := (d'.caches place.cache).lacks_missing k rs
          rw [← Cache.missing_missing hmore (Requirement.dedup rs)] at hlacks
          have hq := ho _ (fun r hr => ⟨hlacks.sublist.subset hr, (hlacks.first r hr).1⟩)
            hlacks.complete
          split
          · exact Flow.safe_report (hC.change _ rfl rfl) (Flow.safe_pure (hends hi' hq rfl rfl))
          · exact Flow.safe_report (hC.change _ rfl rfl) (Flow.safe_pure (hends hi' hq rfl rfl))

end Provisioner
end DocQuery.Provision
