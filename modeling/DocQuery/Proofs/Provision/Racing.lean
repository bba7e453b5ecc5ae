import DocQuery.Proofs.Provision.Coherence
import DocQuery.Proofs.Provision.Resolves

/-! # Provisioners that race

Provisioners that know nothing of each other resolve against one catalog, while other clients
register functions there. Whoever is first registers a function; all others find it. Those that take
over what exists succeed, and end with the record of the catalog in their caches. -/

namespace DocQuery.Provision

open Catalog (Atomic Memory Serving)

variable {σ : Type} {catalog : Catalog σ} {memory : σ → Memory} {used : Nat → Prop}
  {live : Container → Prop} {lossy : Prop}

def Seeded (memory : σ → Memory) (s s' : σ) : Prop :=
  ∃ k f r, (memory s).register k f = .ok (r, memory s')

/-- What other clients register, everybody has to reckon with anyway. -/
theorem growth_seeded (d : Data σ) (s : σ) (hi : (growth memory used live).inv d)
    (hs : Seeded memory d.catalog s) :
    (growth memory used live).change none d { d with catalog := s } ∧
      (growth memory used live).inv { d with catalog := s } := by
  obtain ⟨k, f, r, hr⟩ := hs
  have hm := Memory.Grows.register hr
  exact ⟨Grown.of_grows hm rfl, growth_inv hi hm rfl⟩

def racingDuty (hat : Serving lossy catalog memory) (used : Nat → Prop) (live : Container → Prop)
    (r : Resolve) : Duty (growth memory used live) catalog :=
  r.provisioner.resolveDuty hat used live r.container r.place r.requirements

theorem racingDuty_fits (hat : Serving lossy catalog memory) (r : Resolve) :
    Fits (racingDuty hat used live) r where
  provisioner := rfl
  container := rfl
  place := rfl
  first := fun _ hi => r.provisioner.survey_safe hat r.container r.requirements hi

theorem growth_inv_start {w : World σ} (hempty : ∀ i, w.caches i = .empty)
    (hlive : ∀ k, live k → ∃ rs, (memory w.catalog).hosted k = .ok rs) :
    (growth memory used live).inv w.toData :=
  ⟨fun i _ => hempty i ▸ .empty _, hlive⟩

/-- What the result of a resolve that was in a race says. One that takes over what exists succeeds;
another can fail only over a function that exists. After a success every function that is required
stands in the catalog once, and its record in the cache. -/
structure Agrees (memory : σ → Memory) (r : Resolve) (result : Except Error Unit) (d : Data σ) :
    Prop where
  succeeds : r.provisioner.settings.recoverConflicts = true → result = .ok ()
  known : result = .ok () → ∀ f ∈ r.requirements, ∃ record,
    (d.caches r.place.cache).get? r.container f.id = some record ∧
      ((memory d.catalog).functions r.container.link).filter (·.id = f.id) = [record]
  fails : ∀ {e}, result = .error e → ∃ f ∈ r.requirements,
    e = .create r.container f.id (.conflict r.container f.id) ∧
      (memory d.catalog).Registered r.container.link f.id

theorem record_of_has {m : Memory} {c : Cache} (hc : Coherent m c) (hd : m.Distinct)
    {k : Container} {id : String} (h : c.has k id = true) :
    ∃ record, c.get? k id = some record ∧
      (m.functions k.link).filter (·.id = id) = [record] := by
  obtain ⟨record, hr⟩ := Cache.has_eq_true_iff.1 h
  obtain ⟨link, rfl, hm, rfl⟩ := hc.listed hr
  exact ⟨record, hr, hd.filter_eq hm⟩

theorem racingDuty_known {hat : Serving lossy catalog memory} {r : Resolve} {d : Data σ}
    (hc : Coherent (memory d.catalog) (d.caches r.place.cache))
    (hd : (memory d.catalog).Distinct) (h : (racingDuty hat used live r).Kept (.ok ()) d)
    {f : Requirement} (hf : f ∈ r.requirements) : ∃ record,
    (d.caches r.place.cache).get? r.container f.id = some record ∧
      ((memory d.catalog).functions r.container.link).filter (·.id = f.id) = [record] := by
  obtain ⟨rest, hfirst, heach⟩ := h
  exact record_of_has hc hd (Provisioner.resolveDuty_known hfirst heach hf)

/-- A resolve against a live container that kept its promises agrees with the catalog. -/
theorem racingDuty_agrees {hat : Serving False catalog memory} {r : Resolve}
    {result : Except Error Unit} {d : Data σ} (hl : live r.container)
    (hc : Coherent (memory d.catalog) (d.caches r.place.cache))
    (hd : (memory d.catalog).Distinct) (h : (racingDuty hat used live r).Kept result d) :
    Agrees memory r result d := by
  cases result with
  | ok _ => exact ⟨fun _ => rfl, fun _ f hf => racingDuty_known hc hd h hf, by simp⟩
  | error e =>
      rcases h with hfirst | ⟨f, rest, hfirst, hm, heach⟩
      · obtain ⟨_, hlost, -⟩ := hfirst hl
        exact hlost.1.elim
      · obtain ⟨hoff, rfl, hreg⟩ := (heach hl).resolve_right fun ⟨_, hlost, _⟩ => hlost.1
        refine ⟨fun hon => ?_, by simp, fun he => ?_⟩
        · rw [hoff] at hon
          cases hon
        · obtain rfl := Except.error.inj he
          exact ⟨f, hfirst.1 f hm, rfl, hreg⟩

/-- Racing resolves finish after a bounded number of steps, at the latest when no thread can go on.
Their results agree with the catalog, in which no id is ever registered twice. -/
theorem racing_resolves_agree (hat : Atomic catalog memory) {w : World σ}
    (hdistinct : (memory w.catalog).Distinct) (hempty : ∀ i, w.caches i = .empty)
    (hlocks : ∀ i, w.locks i = {}) {rs : List Resolve}
    (hlive : ∀ r ∈ rs, ∃ fs, (memory w.catalog).hosted r.container = .ok fs) {n : Nat}
    {ds : Chronicle} {p : Pool σ}
    (hrun : Pool.Run catalog (InCatalog (Seeded memory)) (resolving w rs) n ds p) :
    n ≤ totalSteps rs ∧
    ((∀ now id, p.resume? catalog now id = none) → ∀ t ∈ p.jobs, t.isFinished = true) ∧
    (memory p.world.catalog).Distinct ∧
    ∀ (i : Nat) (r : Resolve), rs[i]? = some r → ∃ t, p.jobs[i]? = some t ∧
      (t.isFinished = true → Agrees memory r t.result p.world.toData) := by
  have hinv : (growth memory (fun _ => True) fun k => ∃ r ∈ rs, r.container = k).inv w.toData := by
    refine growth_inv_start hempty ?_
    rintro k ⟨r, hr, rfl⟩
    exact hlive r hr
  have hsafe := resolving_safe (fun r (_ : r ∈ rs) => racingDuty_fits (hat.serving False) r) hinv
    (fun _ => trivial) (fun i => hlocks i ▸ LockTable.inOrder_empty)
  obtain ⟨hn, hfin⟩ := resolving_finishes hsafe growth_seeded hrun
  obtain ⟨⟨stance, hend⟩, hrely⟩ := hsafe.run growth_seeded hrun
  have hd := (Grown.of_rely hrely).catalog.distinct hdistinct
  refine ⟨hn, hfin, hd, fun i r hr => ?_⟩
  obtain ⟨t, ht, hres⟩ := resolving_result hsafe growth_seeded hrun hr
  refine ⟨t, ht, fun hf => ?_⟩
  exact racingDuty_agrees ⟨r, List.mem_of_getElem? hr, rfl⟩ (hend.inv.1 _ trivial) hd (hres hf)

/-- Two provisioners list the collection before either creates the function, so that one of them
loses. -/
theorem two_racers_agree : ∃ n ds p,
    Pool.Run Memory.catalog (InCatalog (Seeded fun m => m))
        (resolving { catalog := slowMemory } [.lone 0, .lone 1]) n ds p ∧
      (∀ t ∈ p.jobs, t.isFinished = true) ∧
      ∀ (i : Nat) (r : Resolve), [Resolve.lone 0, .lone 1][i]? = some r → ∃ t,
        p.jobs[i]? = some t ∧
          (t.isFinished = true → Agrees (fun m => m) r t.result p.world.toData) := by
  have hend : ((resolving { catalog := slowMemory } [.lone 0, .lone 1]).replay Memory.catalog []
      [⟨0, 0⟩, ⟨1, 0⟩, ⟨0, 0⟩, ⟨1, 0⟩, ⟨0, 1⟩, ⟨1, 1⟩, ⟨0, 1⟩, ⟨1, 1⟩, ⟨1, 1⟩]).any
      (fun (_, p) => p.jobs.all Job.isFinished) = true := by decide +kernel
  obtain ⟨n, ds, p, hrun, hfinished⟩ := Pool.Run.of_replay (InCatalog (Seeded fun m => m)) hend
  refine ⟨n, ds, p, hrun, by simpa using hfinished, (racing_resolves_agree Memory.catalog_atomic
    (Memory.distinct_ofLinks _ _) (fun _ => rfl) (fun _ => rfl) ?_ hrun).2.2.2⟩
  intro r hr
  have hr' : r = .lone 0 ∨ r = .lone 1 := by simpa using hr
  have hcontainer : r.container = .collection "c" := by rcases hr' with rfl | rfl <;> rfl
  exact ⟨[], hcontainer ▸ rfl⟩

end DocQuery.Provision
