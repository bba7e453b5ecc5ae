import DocQuery.Proofs.Cache
import DocQuery.Proofs.Catalog.Memory
import DocQuery.Proofs.Provision.Parts
import DocQuery.Proofs.Provision.Pools

/-! # Caches that agree with the catalog

A cache is coherent if every record in it is that of a function in the catalog. As long as nothing
is deleted, provisioners that share a catalog keep all caches coherent, whatever they do at the same
time, whatever other clients create, and whichever answers are lost; and a resolve that succeeds
leaves everything that it was asked for in the cache.
-/

namespace DocQuery.Provision

open Catalog (Memory Reply Request Serving)

variable {σ : Type}

def Listed (m : Memory) (k : Container) (id : String) (r : Record) : Prop :=
  ∃ link, k = .collection link ∧ r ∈ m.functions link ∧ r.id = id

/-- A cache that knows nothing but what stands in the catalog. -/
structure Coherent (m : Memory) (c : Cache) : Prop where
  distinct : c.Distinct
  listed : ∀ {k id r}, c.get? k id = some r → Listed m k id r

namespace Coherent

variable {m m' : Memory} {c : Cache}

theorem empty (m : Memory) : Coherent m .empty where
  distinct := Cache.distinct_empty
  listed := by simp

theorem grows (h : Coherent m c) (hm : m.Grows m') : Coherent m' c where
  distinct := h.distinct
  listed := by
    intro k id r hr
    obtain ⟨link, hk, hm', hid⟩ := h.listed hr
    exact ⟨link, hk, hm.mem_functions hm', hid⟩

theorem merge (h : Coherent m c) {k : Container} {rs : List Record}
    (hrs : ∀ r ∈ rs, Listed m k r.id r) : Coherent m (c.apply (.merge k rs)) where
  distinct := h.distinct.apply _
  listed := by
    intro k' id r hr
    rcases Cache.get?_merge hr with ⟨rfl, hm, rfl⟩ | hr
    · exact hrs r hm
    · exact h.listed hr

theorem registered (h : Coherent m c) {k : Container} {id : String} (hk : c.has k id = true) :
    m.Registered k.link id := by
  obtain ⟨r, hr⟩ := Cache.has_eq_true_iff.1 hk
  obtain ⟨link, rfl, hm, hid⟩ := h.listed hr
  exact ⟨r, hm, hid⟩

/-- Nothing is known in a database. -/
theorem size_database (h : Coherent m c) (link : String) : c.size (.database link) = 0 := by
  cases hc : c.functions (.database link) with
  | nil => simp [Cache.size, hc]
  | cons entry rest =>
      have hget : c.get? (.database link) entry.1 = some entry.2 := by
        simp [Cache.get?, hc, Entries.get?]
      obtain ⟨_, hk, -⟩ := h.listed hget
      cases hk

end Coherent

structure Grown (memory : σ → Memory) (d d' : Data σ) : Prop where
  catalog : (memory d.catalog).Grows (memory d'.catalog)
  caches : ∀ i k id, (d.caches i).has k id = true → (d'.caches i).has k id = true

theorem Grown.of_grows {memory : σ → Memory} {d d' : Data σ}
    (hm : (memory d.catalog).Grows (memory d'.catalog)) (hc : d'.caches = d.caches) :
    Grown memory d d' :=
  ⟨hm, fun i k id h => by rwa [hc]⟩

theorem Grown.refl {memory : σ → Memory} (d : Data σ) : Grown memory d d :=
  .of_grows (.refl _) rfl

theorem Grown.count {memory : σ → Memory} (d : Data σ) (i : Nat) (c : Counter) :
    Grown memory d (d.count i c) := .of_grows (.refl _) rfl

theorem Grown.report {memory : σ → Memory} (d : Data σ) (e : Event) :
    Grown memory d (d.report e) := .of_grows (.refl _) rfl

theorem Grown.trans {memory : σ → Memory} {d d' d'' : Data σ} (h : Grown memory d d')
    (h' : Grown memory d' d'') : Grown memory d d'' :=
  ⟨h.catalog.trans h'.catalog, fun i k id hk => h'.caches i k id (h.caches i k id hk)⟩

/-- Nothing is deleted or forgotten, and the caches in use stay coherent. Some containers are there
to be used. -/
def growth (memory : σ → Memory) (used : Nat → Prop) (live : Container → Prop) : Contract σ where
  inv := fun d => (∀ i, used i → Coherent (memory d.catalog) (d.caches i)) ∧
    ∀ k, live k → ∃ rs, (memory d.catalog).hosted k = .ok rs
  change := fun _ => Grown memory
  atRest := fun _ _ => True
  atRest_change := fun _ _ _ => trivial

variable {memory : σ → Memory} {used : Nat → Prop} {live : Container → Prop} {lossy : Prop}
  {catalog : Catalog σ} {place : Place} {s : Stance} {d d' : Data σ}

theorem Grown.of_rely {held : Option (Nat × LockKey)}
    (h : (growth memory used live).Rely held d d') : Grown memory d d' :=
  h.keeps (P := Grown memory d) (fun _ _ _ _ hc hd => hd.trans hc) (.refl d)

theorem growth_inv (hi : (growth memory used live).inv d)
    (hm : (memory d.catalog).Grows (memory d'.catalog)) (hc : d'.caches = d.caches) :
    (growth memory used live).inv d' := by
  refine ⟨fun i hu => ?_, fun k hk => ?_⟩
  · rw [hc]
    exact (hi.1 i hu).grows hm
  · obtain ⟨rs, hrs⟩ := hi.2 k hk
    exact hm.hosted hrs

theorem growth_quiet : (growth memory used live).Quiet where
  change := fun _ {_ _} hs hc => Grown.of_grows (hs ▸ .refl _) hc
  inv := fun hs hc hi => growth_inv hi (hs ▸ .refl _) hc

theorem Grown.merge (d : Data σ) (i : Nat) (k : Container) (rs : List Record) :
    Grown memory d (d.changeCache i (.merge k rs)) where
  catalog := .refl _
  caches := by
    intro j k' id h
    by_cases hj : j = i
    · subst hj
      simp only [Data.changeCache, if_true]
      exact (Cache.has_merge _ _ _ _ _).2 (Or.inl h)
    · simpa only [Data.changeCache, hj, if_false] using h

theorem growth_inv_merge (hi : (growth memory used live).inv d) {i : Nat} {k : Container}
    {rs : List Record} (hrs : ∀ r ∈ rs, Listed (memory d.catalog) k r.id r) :
    (growth memory used live).inv (d.changeCache i (.merge k rs)) := by
  refine ⟨fun j hu => ?_, hi.2⟩
  by_cases hj : j = i
  · subst hj
    simp only [Data.changeCache, if_true]
    exact (hi.1 j hu).merge hrs
  · simpa only [Data.changeCache, hj, if_false] using hi.1 j hu

theorem has_changeCache_merge (d : Data σ) (i : Nat) {k : Container} {id : String}
    {rs : List Record} (h : ∃ r ∈ rs, r.id = id) :
    ((d.changeCache i (.merge k rs)).caches i).has k id = true := by
  simp only [Data.changeCache, if_true]
  exact (Cache.has_merge _ _ _ _ _).2 (Or.inr ⟨rfl, h⟩)

/-- A request that lets the memory grow. What its answer means, as the memory has served it or as it
was lost, still holds when the answer arrives. -/
theorem growth_request (hat : Serving lossy catalog memory) (hs : s.Settled) {r : Request}
    {Q : Reply r → Memory → Prop}
    (hserve : ∀ (m m' : Memory) (reply : Reply r), (memory d.catalog).Grows m →
      (∀ k, live k → ∃ rs, m.hosted k = .ok rs) → m.Serves r reply m' → m.Grows m' ∧ Q reply m')
    (hlost : ∀ (m : Memory) (e : Catalog.Error), e.Lost lossy → Q (.error e) m)
    (hstable : ∀ (m m' : Memory) (reply : Reply r), m.Grows m' → Q reply m → Q reply m')
    (hi : (growth memory used live).inv d) :
    (Flow.request r).Safe (growth memory used live) catalog place (fun s' a d' =>
      s' = s ∧ (growth memory used live).inv d' ∧ Grown memory d d' ∧ Q a (memory d'.catalog))
      s d := by
  have hquiet : ∀ {d₁ d₂ : Data σ}, d₂.caches = d₁.caches →
      (memory d₁.catalog).Alike (memory d₂.catalog) → (growth memory used live).inv d₁ →
      Grown memory d₁ d₂ ∧ (growth memory used live).inv d₂ := fun hc ha hi => by
    have hm := Memory.Grows.of_collections_eq ha
    exact ⟨.of_grows hm hc, growth_inv hi hm hc⟩
  have hanswer : ∀ (m m' : Memory) (reply : Reply r), (memory d.catalog).Grows m →
      (∀ k, live k → ∃ rs, m.hosted k = .ok rs) → m.Answers lossy r reply m' →
      m.Grows m' ∧ Q reply m' := by
    intro m m' reply hg hlive ha
    rcases ha with hserves | ⟨⟨e, he, rfl⟩, halike | hserved⟩
    · exact hserve m m' reply hg hlive hserves
    · exact ⟨.of_collections_eq halike, hlost _ _ he⟩
    · exact ⟨(hserve m m' _ hg hlive ⟨rfl, hserved⟩).1, hlost _ _ he⟩
  refine request_safe (hat r) hs (J := Grown memory d)
    (Q := fun a d' => (growth memory used live).inv d' ∧ Grown memory d d' ∧
      Q a (memory d'.catalog))
    Grown.trans (fun d' hc ha => ?_) (fun d₁ d₂ reply hc hserves hi' hg => ?_)
    (fun d₁ d₂ reply hc ha hq => ?_) (fun _ _ hg hr _ => hg.trans (.of_rely hr))
    (fun _ _ _ hq hr hi' => ?_)
  · obtain ⟨hg, hi'⟩ := hquiet hc ha hi
    exact ⟨hg, hi', hg⟩
  · obtain ⟨hm, hq⟩ := hanswer _ _ reply hg.catalog hi'.2 hserves
    exact ⟨.of_grows hm hc, growth_inv hi' hm hc, hg.trans (.of_grows hm hc), hq⟩
  · obtain ⟨hg, hi'⟩ := hquiet hc ha hq.1
    exact ⟨hq.1, hg, hi', hq.2.1.trans hg, hstable _ _ _ hg.catalog hq.2.2⟩
  · exact ⟨hi', hq.2.1.trans (.of_rely hr), hstable _ _ _ (Grown.of_rely hr).catalog hq.2.2⟩

theorem growth_persist (p : Provisioner) (hat : Serving lossy catalog memory) (hs : s.Settled)
    {operation : Operation} {counter : Option Counter} {r : Request} {Q : Reply r → Memory → Prop}
    (hserve : ∀ (m m' : Memory) (reply : Reply r), (memory d.catalog).Grows m →
      (∀ k, live k → ∃ rs, m.hosted k = .ok rs) → m.Serves r reply m' → m.Grows m' ∧ Q reply m')
    (hlost : ∀ (m : Memory) (e : Catalog.Error), e.Lost lossy → Q (.error e) m)
    (hstable : ∀ (m m' : Memory) (reply : Reply r), m.Grows m' → Q reply m → Q reply m')
    (hi : (growth memory used live).inv d) :
    (p.persist operation counter r).Safe (growth memory used live) catalog place (fun s' a d' =>
      s' = s ∧ (growth memory used live).inv d' ∧ Grown memory d d' ∧ Q a (memory d'.catalog))
      s d := by
  have hsame : ∀ d₁ d₂ : Data σ, d₂.catalog = d₁.catalog → d₂.caches = d₁.caches →
      (growth memory used live).inv d₁ ∧ Grown memory d d₁ →
      (growth memory used live).inv d₂ ∧ Grown memory d d₂ := fun d₁ d₂ hc hk h => by
    have hm : (memory d₁.catalog).Grows (memory d₂.catalog) := hc ▸ .refl _
    exact ⟨growth_inv h.1 hm hk, h.2.trans (.of_grows hm hk)⟩
  refine (p.persist_safe (J := fun d' => (growth memory used live).inv d' ∧ Grown memory d d')
    (Q := fun a d' => ((growth memory used live).inv d' ∧ Grown memory d d') ∧
      Q a (memory d'.catalog))
    hs (growth_quiet.unaffected hsame) (fun a => growth_quiet.unaffected ?_) (fun _ h => h.1) ?_ ?_
    ⟨hi, .refl d⟩).mono fun s' a d' h => ⟨h.1, h.2.1.1, h.2.1.2, h.2.2⟩
  · exact fun d₁ d₂ hc hk h => ⟨hsame d₁ d₂ hc hk h.1, hc ▸ h.2⟩
  · exact fun d₁ d₂ h hr hi' => ⟨hi', h.2.trans (.of_rely hr)⟩
  · intro d₁ h
    refine (growth_request hat hs (fun m m' reply hm => hserve m m' reply (h.2.catalog.trans hm))
      hlost hstable h.1).mono ?_
    rintro s' a d₂ ⟨rfl, hi', hg, hq⟩
    exact ⟨rfl, ⟨⟨hi', h.2.trans hg⟩, hq⟩, fun _ _ _ => ⟨hi', h.2.trans hg⟩⟩

/-! ## The parts of a resolve -/

/-- What the answer to a listing means: all records stand in the catalog, and everything is among
them that was registered before; or the container cannot be used, or the answer was lost. -/
def ListMeans (lossy : Prop) (live : Container → Prop) (m₀ : Memory) (k : Container) :
    Except Catalog.Error (List Record) → Memory → Prop
  | .ok rs, m => (∀ r ∈ rs, Listed m k r.id r) ∧
    ∀ id, m₀.Registered k.link id → ∃ r ∈ rs, r.id = id
  | .error e, _ => live k → e.Lost lossy

/-- What the answer to a create means: the record stands in the catalog, or the container cannot be
used, or the id is taken, or the answer was lost. -/
def CreateMeans (lossy : Prop) (live : Container → Prop) (k : Container) (f : Requirement) :
    Except Catalog.Error Record → Memory → Prop
  | .ok r, m => Listed m k f.id r
  | .error e, m => e.isConflict = true ∨ live k →
    (e = .conflict k f.id ∧ m.Registered k.link f.id) ∨ e.Lost lossy

namespace Provisioner

theorem list_safe (p : Provisioner) (hat : Serving lossy catalog memory) (hs : s.Settled)
    (k : Container) (hi : (growth memory used live).inv d) :
    (p.persist .list (some .listCalls) (.list k)).Safe (growth memory used live) catalog place
      (fun s' a d' => s' = s ∧ (growth memory used live).inv d' ∧ Grown memory d d' ∧
        ListMeans lossy live (memory d.catalog) k a (memory d'.catalog)) s d := by
  refine growth_persist p hat hs (r := .list k) (Q := ListMeans lossy live (memory d.catalog) k) ?_
    (fun _ _ he _ => he) ?_ hi
  · rintro m m' reply hm₀ hlive ⟨rfl, hm'⟩
    rw [(m.serve_list k).2] at hm'
    have hm : m.Grows m' := .of_collections_eq hm'
    refine ⟨hm, ?_⟩
    rw [(m.serve_list k).1]
    cases hk : m.hosted k with
    | error e =>
        intro hl
        obtain ⟨rs, hrs⟩ := hlive k hl
        rw [hk] at hrs
        cases hrs
    | ok rs =>
        have hrs := Memory.functions_of_hosted hk
        obtain ⟨link, rfl, -⟩ := Memory.hosted_eq_ok.1 hk
        refine ⟨fun r hr => ⟨link, rfl, hm.mem_functions (hrs ▸ hr), rfl⟩, fun id hid => ?_⟩
        obtain ⟨r, hr, hrid⟩ := hm₀.registered hid
        exact ⟨r, hrs ▸ hr, hrid⟩
  · intro m m' reply hm hq
    cases reply with
    | error e => exact hq
    | ok rs =>
        refine ⟨fun r hr => ?_, hq.2⟩
        obtain ⟨link, hk, hr', hid⟩ := hq.1 r hr
        exact ⟨link, hk, hm.mem_functions hr', hid⟩

theorem create_safe (p : Provisioner) (hat : Serving lossy catalog memory) (hs : s.Settled)
    (k : Container) (f : Requirement) (hi : (growth memory used live).inv d) :
    (p.persist .create (some .createCalls) (.create k f)).Safe (growth memory used live) catalog
      place (fun s' a d' => s' = s ∧ (growth memory used live).inv d' ∧ Grown memory d d' ∧
        CreateMeans lossy live k f a (memory d'.catalog)) s d := by
  refine growth_persist p hat hs (r := .create k f) (Q := CreateMeans lossy live k f) ?_
    (fun _ _ he _ => Or.inr he) ?_ hi
  · rintro m m' reply - hlive ⟨rfl, hm'⟩
    rcases m.serve_create k f with ⟨e, hk, hv, hst⟩ | ⟨rs, hk, htaken, hv, hst⟩ |
      ⟨rs, hk, hfree, hv, hst⟩
    · rw [hst] at hm'
      refine ⟨.of_collections_eq hm', ?_⟩
      rw [hv]
      rintro (hc | hl)
      · rcases m.hosted_cases k with ⟨_, -, hh⟩ | ⟨_, -, -, hh⟩ | ⟨_, -, -, hh⟩ <;>
          cases hk.symm.trans hh <;> cases hc
      · obtain ⟨rs, hrs⟩ := hlive k hl
        rw [hk] at hrs
        cases hrs
    · rw [hst] at hm'
      have hm : m.Grows m' := .of_collections_eq hm'
      refine ⟨hm, ?_⟩
      rw [hv]
      intro _
      obtain ⟨r, hr, hid⟩ := htaken
      exact Or.inl ⟨rfl, hm.registered ⟨r, Memory.functions_of_hosted hk ▸ hr, hid⟩⟩
    · rw [hst] at hm'
      have hm : m.Grows m' := (Memory.Grows.setFunctions hk hfree).trans (.of_collections_eq hm')
      refine ⟨hm, ?_⟩
      rw [hv]
      obtain ⟨link, rfl, hg⟩ := Memory.hosted_eq_ok.1 hk
      refine ⟨link, rfl, ?_, rfl⟩
      rw [Memory.functions_congr hm']
      simp [Memory.functions, Memory.get?_setFunctions, Container.link]
  · intro m m' reply hm hq
    cases reply with
    | error e => exact fun h => (hq h).imp_left fun hc => ⟨hc.1, hm.registered hc.2⟩
    | ok r =>
        obtain ⟨link, hk, hr, hid⟩ := hq
        exact ⟨link, hk, hm.mem_functions hr, hid⟩

/-- A listing that is remembered covers everything that was registered when it was asked for. -/
theorem refresh_safe (p : Provisioner) (hat : Serving lossy catalog memory) (hs : s.Settled)
    (k : Container) (hi : (growth memory used live).inv d) :
    (p.refresh k).Safe (growth memory used live) catalog place (fun s' o d' =>
      s' = s ∧ (growth memory used live).inv d' ∧ Grown memory d d' ∧
        (o = .ok () → ∀ id, (memory d.catalog).Registered k.link id →
          (d'.caches place.cache).has k id = true) ∧
        (∀ e, o = .error e → live k → ∃ cause : Catalog.Error, cause.Lost lossy ∧
          e = .list k cause)) s d := by
  refine Flow.safe_seq ((p.list_safe hat hs k hi).mono ?_)
  rintro s' a d' ⟨rfl, hi', hg, ha⟩
  cases a with
  | error e =>
      exact Flow.safe_count (Grown.count _ _ _) (Flow.safe_pure
        ⟨rfl, hi', hg.trans (.count _ _ _), by simp, fun _ he hl =>
          ⟨e, ha hl, (Except.error.inj he).symm⟩⟩)
  | ok records =>
      obtain ⟨hlisted, hall⟩ := ha
      have hreport : Grown memory d' (d'.report (.listed k (List.length records) catalog.name)) :=
        .report _ _
      refine Flow.safe_catalogName (Flow.safe_report hreport ?_)
      refine Flow.safe_changeCache (Grown.merge _ _ _ _) (Flow.safe_pure ?_)
      refine ⟨rfl, growth_inv_merge (growth_inv hi' hreport.catalog rfl) hlisted,
        (hg.trans hreport).trans (Grown.merge _ _ _ _), fun _ id hid => ?_, by simp⟩
      exact has_changeCache_merge _ _ (hall id hid)

/-- What providing a function comes to: it is known from then on, or its container cannot be used,
or it exists and may not be taken over, or an answer was lost. -/
def Secures (p : Provisioner) (memory : σ → Memory) (lossy : Prop) (live : Container → Prop)
    (k : Container) (place : Place) (f : Requirement) : Outcome → Data σ → Prop
  | .ok rs, d => rs = [] ∧ (d.caches place.cache).has k f.id = true
  | .error e, d => live k → (p.settings.recoverConflicts = false ∧
      e = .create k f.id (.conflict k f.id) ∧ (memory d.catalog).Registered k.link f.id) ∨
    ∃ cause : Catalog.Error, cause.Lost lossy ∧ (e = .create k f.id cause ∨ e = .list k cause)

theorem createFailed_safe {k : Container} {f : Requirement} {e : Catalog.Error}
    {Q : Stance → Outcome → Data σ → Prop}
    (h : ∀ d', d'.catalog = d.catalog → d'.caches = d.caches →
      Q s (.error (.create k f.id e)) d') :
    (createFailed k f e).Safe (growth memory used live) catalog place Q s d :=
  Flow.safe_report (Grown.report _ _) (Flow.safe_count (Grown.count _ _ _)
    (Flow.safe_pure (h _ rfl rfl)))

theorem ensureLocked_safe (p : Provisioner) (hat : Serving lossy catalog memory) (hs : s.Settled)
    (k : Container) (f : Requirement) (hi : (growth memory used live).inv d) :
    (p.ensureLocked k f).Safe (growth memory used live) catalog place (fun s' o d' =>
      s' = s ∧ (growth memory used live).inv d' ∧ p.Secures memory lossy live k place f o d')
      s d := by
  refine Flow.safe_readCache ?_
  by_cases hknown : (d.caches place.cache).has k f.id = true
  · rw [if_pos hknown]
    exact Flow.safe_report (Grown.report _ _) (Flow.safe_pure ⟨rfl, hi, rfl, hknown⟩)
  · rw [if_neg hknown]
    refine Flow.safe_seq ((p.create_safe hat hs k f hi).mono ?_)
    rintro s' a d' ⟨rfl, hi', hg, ha⟩
    cases a with
    | ok r =>
        obtain ⟨link, hk, hr, hid⟩ := ha
        have hlisted : ∀ x ∈ [r], Listed (memory d'.catalog) k x.id x := fun x hx => by
          obtain rfl := List.mem_singleton.1 hx
          exact ⟨link, hk, hr, rfl⟩
        refine Flow.safe_report (Grown.report _ _) (Flow.safe_count (Grown.count _ _ _) ?_)
        refine Flow.safe_changeCache (Grown.merge _ _ _ [r]) (Flow.safe_pure ⟨rfl, ?_, rfl, ?_⟩)
        · exact growth_inv_merge (growth_inv hi' (.refl _) rfl) hlisted
        · exact has_changeCache_merge _ _ ⟨r, List.mem_singleton.2 rfl, hid⟩
    | error e =>
        dsimp only
        by_cases hrec : (e.isConflict && p.settings.recoverConflicts) = true
        · rw [if_pos hrec]
          obtain ⟨hconflict, -⟩ := Bool.and_eq_true_iff.1 hrec
          have hreg : (memory d'.catalog).Registered k.link f.id := by
            rcases ha (Or.inl hconflict) with ⟨-, hreg⟩ | ⟨-, htransient⟩
            · exact hreg
            · cases e <;> simp_all [Catalog.Error.isConflict, Catalog.Error.isTransient]
          have hreport : (growth memory used live).inv (d'.report (.alreadyExists k f.id)) :=
            growth_inv hi' (.refl _) rfl
          refine Flow.safe_report (Grown.report _ _) (Flow.safe_seq
            ((p.refresh_safe hat hs k hreport).mono ?_))
          rintro s'' o d'' ⟨rfl, hi'', -, hok, herr⟩
          cases o with
          | error e' =>
              refine ⟨rfl, hi'', fun hl => Or.inr ?_⟩
              obtain ⟨cause, hlost, he⟩ := herr e' rfl hl
              exact ⟨cause, hlost, Or.inr he⟩
          | ok _ =>
              have hnow := hok rfl f.id hreg
              refine Flow.safe_readCache ?_
              rw [if_pos hnow]
              exact Flow.safe_count (Grown.count _ _ _) (Flow.safe_pure ⟨rfl, hi'', rfl, hnow⟩)
        · rw [if_neg hrec]
          refine createFailed_safe fun d'' hc hk => ⟨rfl, growth_inv hi' (hc ▸ .refl _) hk, ?_⟩
          intro hl
          rcases ha (Or.inr hl) with ⟨rfl, hreg⟩ | hlost
          · refine Or.inl ⟨by simpa [Catalog.Error.isConflict] using hrec, rfl, ?_⟩
            rw [hc]
            exact hreg
          · exact Or.inr ⟨e, hlost, Or.inl rfl⟩

theorem Secures.grown {p : Provisioner} {k : Container} {f : Requirement} {o : Outcome}
    (h : p.Secures memory lossy live k place f o d) (hg : Grown memory d d') :
    p.Secures memory lossy live k place f o d' := by
  cases o with
  | ok rs => exact ⟨h.1, hg.caches _ _ _ h.2⟩
  | error e =>
      exact fun hl => (h hl).imp_left fun hc => ⟨hc.1, hc.2.1, hg.catalog.registered hc.2.2⟩

theorem ensure_secures (p : Provisioner) (hat : Serving lossy catalog memory) (k : Container)
    (f : Requirement) (hi : (growth memory used live).inv d) :
    (p.ensure k f).Safe (growth memory used live) catalog place
      (Ends (growth memory used live) (p.Secures memory lossy live k place f)) .idle d := by
  refine p.ensure_safe hi fun l d' _ hi' _ => ?_
  refine (p.ensureLocked_safe hat (Stance.settled_holder _ _) k f hi').mono ?_
  rintro s' o d'' ⟨rfl, hi'', hp⟩
  exact ⟨rfl, trivial, hi'', fun d₃ hr => hp.grown (.of_rely hr)⟩

/-- What finding out what is missing comes to: everything is known or left to be provided, or the
container cannot be used, or an answer was lost. -/
def Surveys (lossy : Prop) (live : Container → Prop) (k : Container) (place : Place)
    (rs : List Requirement) : Outcome → Data σ → Prop
  | .ok rest, d => (∀ r ∈ rest, r ∈ rs) ∧ ∀ r ∈ rs,
    (d.caches place.cache).has k r.id = true ∨ ∃ r' ∈ rest, r'.id = r.id
  | .error e, _ => live k → ∃ cause : Catalog.Error, cause.Lost lossy ∧ e = .list k cause

theorem Surveys.grown {k : Container} {rs : List Requirement} {o : Outcome}
    (h : Surveys lossy live k place rs o d) (hg : Grown memory d d') :
    Surveys lossy live k place rs o d' := by
  cases o with
  | ok rest => exact ⟨h.1, fun r hr => (h.2 r hr).imp_left (hg.caches _ _ _)⟩
  | error e => exact h

theorem survey_safe (p : Provisioner) (hat : Serving lossy catalog memory) (k : Container)
    (rs : List Requirement) (hi : (growth memory used live).inv d) :
    (p.survey k rs).Safe (growth memory used live) catalog place
      (Ends (growth memory used live) (Surveys lossy live k place rs)) .idle d := by
  refine p.survey_ends growth_quiet (fun h hr => h.grown (.of_rely hr)) hi
    (fun hknown => ⟨by simp, fun r hr => Or.inl (hknown r hr)⟩) (fun hhosts _ hl => ?_)
    ((p.refresh_safe hat Stance.settled_idle k hi).mono ?_)
  · obtain ⟨rs, hrs⟩ := hi.2 k hl
    obtain ⟨link, rfl, -⟩ := Memory.hosted_eq_ok.1 hrs
    cases hhosts
  · rintro s' o d' ⟨rfl, hi', hg, -, herr⟩
    refine ⟨rfl, hi', hg.caches _ k, ?_⟩
    cases o with
    | error e => exact herr e rfl
    | ok _ => exact fun rest hrest hall => ⟨fun r hr => (hrest r hr).1, hall⟩

def resolveDuty (p : Provisioner) (hat : Serving lossy catalog memory) (used : Nat → Prop)
    (live : Container → Prop) (k : Container) (place : Place) (rs : List Requirement) :
    Duty (growth memory used live) catalog where
  provisioner := p
  container := k
  place := place
  first := Surveys lossy live k place rs
  each := p.Secures memory lossy live k place
  closed := fun h => h.1
  follow := fun _ hi r _ => p.ensure_secures hat k r hi

theorem resolveDuty_known {p : Provisioner} {hat : Serving lossy catalog memory} {k : Container}
    {rs rest : List Requirement} (hs : (p.resolveDuty hat used live k place rs).first (.ok rest) d)
    (he : ∀ f ∈ rest, (p.resolveDuty hat used live k place rs).each f (.ok []) d) {f : Requirement}
    (hf : f ∈ rs) : (d.caches place.cache).has k f.id = true := by
  rcases hs.2 f hf with h | ⟨f', hf', hid⟩
  · exact h
  · exact hid ▸ (he f' hf').2

end Provisioner
end DocQuery.Provision
