import DocQuery.Catalog.Memory
import DocQuery.Proofs.Provision.Progress

/-! # Resolves side by side

Any number of resolves, of any provisioners, that run at the same time. -/

namespace DocQuery.Provision

variable {σ : Type} {C : Contract σ} {catalog : Catalog σ}

structure Resolve where
  provisioner : Provisioner
  place : Place
  container : Container
  requirements : List Requirement

namespace Resolve

instance : Inhabited Resolve := ⟨⟨default, ⟨0, 0⟩, .database "", []⟩⟩

def job (r : Resolve) : Job σ :=
  .start r.provisioner r.container r.place (r.provisioner.survey r.container r.requirements)

/-- How often the threads of a resolve go on at most: once to begin, for each wait of the survey,
and for each function that may have to be provided. -/
def steps (r : Resolve) : Nat :=
  r.provisioner.persistWaits + r.requirements.length * (r.provisioner.ensureWaits + 1) + 1

end Resolve

def totalSteps : List Resolve → Nat
  | [] => 0
  | r :: rs => r.steps + totalSteps rs

def resolving (w : World σ) (rs : List Resolve) : Pool σ := ⟨w, rs.map Resolve.job⟩

theorem resolving_within (w : World σ) (rs : List Resolve) :
    (resolving w rs).Within (totalSteps rs) := by
  show Shares Job.Within (rs.map Resolve.job) (totalSteps rs)
  induction rs with
  | nil => rfl
  | cons r rs ih =>
      have hsurvey := r.provisioner.survey_within r.container r.requirements
      exact ⟨r.steps, totalSteps rs, rfl, Job.start_within hsurvey _ _, ih⟩

def duties (duty : Resolve → Duty C catalog) (rs : List Resolve) (i : Nat) : Duty C catalog :=
  duty (rs[i]?.getD default)

theorem duties_eq {duty : Resolve → Duty C catalog} {rs : List Resolve} {i : Nat} {r : Resolve}
    (h : rs[i]? = some r) : duties duty rs i = duty r := by
  simp [duties, h]

structure Fits (duty : Resolve → Duty C catalog) (r : Resolve) : Prop where
  provisioner : (duty r).provisioner = r.provisioner
  container : (duty r).container = r.container
  place : (duty r).place = r.place
  first : ∀ d, C.inv d → (r.provisioner.survey r.container r.requirements).Safe C catalog r.place
    (Ends C (duty r).first) .idle d

variable {duty : Resolve → Duty C catalog} {w : World σ} {rs : List Resolve}
  {outside : σ → σ → Prop} {n : Nat} {ds : Chronicle} {p : Pool σ}

theorem resolving_safe (hfits : ∀ r ∈ rs, Fits duty r) (hinv : C.inv w.toData)
    (hrest : ∀ key, C.atRest key w.toData) (hlocks : ∀ i, (w.locks i).InOrder fun _ => .idle) :
    (resolving w rs).Safe (duties duty rs) fun _ => .idle := by
  refine Pool.Safe.start hinv hrest hlocks ?_
  intro i t ht
  obtain ⟨r, hr, rfl⟩ := Option.map_eq_some_iff.1 (List.getElem?_map ▸ ht)
  have hfit := hfits r (List.mem_of_getElem? hr)
  rw [duties_eq hr, hfit.provisioner, hfit.container, hfit.place]
  exact ⟨_, rfl, hfit.first⟩

/-- Resolves that do their duties are finished after a bounded number of steps, at the latest when
no thread can go on. -/
theorem resolving_finishes (hsafe : (resolving w rs).Safe (duties duty rs) fun _ => .idle)
    (ho : ∀ (d : Data σ) (s : σ), C.inv d → outside d.catalog s →
      C.change none d { d with catalog := s } ∧ C.inv { d with catalog := s })
    (hrun : Pool.Run catalog (InCatalog outside) (resolving w rs) n ds p) :
    n ≤ totalSteps rs ∧
      ((∀ now id, p.resume? catalog now id = none) → ∀ t ∈ p.jobs, t.isFinished = true) := by
  obtain ⟨⟨stance, hsafe'⟩, -⟩ := hsafe.run ho hrun
  obtain ⟨k, hk, -⟩ := (resolving_within w rs).run hsafe ho hrun
  exact ⟨by omega, fun hstuck => hsafe'.finished_of_stuck (hstuck 0)⟩

theorem Pool.Run.exists_job_iff {others : World σ → World σ → Prop}
    (hrun : Pool.Run catalog others (resolving w rs) n ds p) {i : Nat} :
    (∃ t, p.jobs[i]? = some t) ↔ ∃ r, rs[i]? = some r := by
  have hlength : p.jobs.length = rs.length := by
    rw [hrun.length_jobs, resolving, List.length_map]
  constructor
  · rintro ⟨t, ht⟩
    exact ⟨_, List.getElem?_eq_getElem (hlength ▸ (List.getElem?_eq_some_iff.1 ht).1)⟩
  · rintro ⟨r, hr⟩
    exact ⟨_, List.getElem?_eq_getElem (hlength ▸ (List.getElem?_eq_some_iff.1 hr).1)⟩

theorem resolving_result (hsafe : (resolving w rs).Safe (duties duty rs) fun _ => .idle)
    (ho : ∀ (d : Data σ) (s : σ), C.inv d → outside d.catalog s →
      C.change none d { d with catalog := s } ∧ C.inv { d with catalog := s })
    (hrun : Pool.Run catalog (InCatalog outside) (resolving w rs) n ds p) {i : Nat} {r : Resolve}
    (hr : rs[i]? = some r) :
    ∃ t, p.jobs[i]? = some t ∧
      (t.isFinished = true → (duty r).Kept t.result p.world.toData) := by
  obtain ⟨⟨stance, hsafe'⟩, -⟩ := hsafe.run ho hrun
  obtain ⟨t, ht⟩ := hrun.exists_job_iff.2 ⟨r, hr⟩
  obtain ⟨hhon, -⟩ := hsafe'.jobs i t ht
  refine ⟨t, ht, fun hf => ?_⟩
  have hres := hhon.result hf
  rwa [duties_eq hr] at hres

/-! ## A collection to share -/

/-- A memory with one collection, which answers only after a while. -/
def slowMemory : Catalog.Memory := .ofLinks ["c"] 1

def Resolve.lone (i : Nat) : Resolve where
  provisioner := default
  place := ⟨i, i⟩
  container := .collection "c"
  requirements := [⟨"f", "body"⟩]

end DocQuery.Provision
