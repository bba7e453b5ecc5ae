import DocQuery.Proofs.Provision.Commands
import DocQuery.Proofs.Provision.Resolves

/-! # What a run leaves in the caches

Jobs whose commands at most store records of their containers lose nothing that a cache knows, and
leave all other containers alone. This holds of every order in which their threads go on, of every
catalog, and in whatever state the locks are.
-/

namespace DocQuery.Provision

variable {σ : Type} {catalog : Catalog σ} {touched : Nat → Container → Prop}

/-- No cache has lost anything, and nothing has changed but in some containers. -/
structure Remembers (touched : Nat → Container → Prop) (caches caches' : Nat → Cache) : Prop where
  grows : ∀ i, (caches i).Grows (caches' i)
  untouched : ∀ i k, ¬ touched i k → (caches' i).functions k = (caches i).functions k

namespace Remembers

theorem refl (caches : Nat → Cache) : Remembers touched caches caches :=
  ⟨fun i => .refl (caches i), fun _ _ _ => rfl⟩

theorem trans {caches caches' caches'' : Nat → Cache} (h : Remembers touched caches caches')
    (h' : Remembers touched caches' caches'') : Remembers touched caches caches'' where
  grows := fun i => (h.grows i).trans (h'.grows i)
  untouched := fun i k hk => (h'.untouched i k hk).trans (h.untouched i k hk)

theorem store {i : Nat} {k : Container} {change : Cache.Change} (hs : change.Stores k)
    (hk : touched i k) (d : Data σ) :
    Remembers touched d.caches (d.changeCache i change).caches where
  grows := by
    intro j
    by_cases hj : j = i
    · subst hj
      simp only [Data.changeCache, if_true]
      exact .store hs _
    · simp only [Data.changeCache, hj, if_false]
      exact .refl _
  untouched := by
    intro j k' hk'
    by_cases hj : j = i
    · subst hj
      have hne : k' ≠ k := fun he => hk' (he ▸ hk)
      simp only [Data.changeCache, if_true]
      exact Cache.functions_store hs hne _
    · simp only [Data.changeCache, hj, if_false]

end Remembers

/-! ## Threads -/

def Thread.Every (P : Command → Prop) (Q : Outcome → Prop) : Thread σ → Prop
  | .ready p => p.Every P Q
  | .paused (.asleep _ p) => p.Every P Q
  | .paused (.queued _ p) => p.Every P Q
  | .paused (.awaiting _ _ _ next) => ∀ reply, (next reply).Every P Q
  | .paused (.ended o) => Q o

namespace Thread

variable {P : Command → Prop} {Q : Outcome → Prop} {x : Thread σ}

theorem Every.grant (h : x.Every P Q) : x.grant.Every P Q := by
  rcases x.grant_cases with hg | ⟨l, p, rfl, hg⟩
  · rwa [hg]
  · exact h

theorem Every.ended {o : Outcome} (h : x.Every P Q) (ho : x.outcome? = some o) : Q o := by
  rwa [eq_ended ho] at h

theorem Every.wake {w w' : World σ} {p : Flow Outcome} (h : x.Every P Q)
    (hw : x.wake? w = some (p, w')) : p.Every P Q := by
  rcases wake?_eq_some hw with ⟨rfl, -⟩ | ⟨ms, rfl, -⟩ | ⟨ms, r, finish, next, rfl, rfl, -⟩
  · exact h
  · exact h
  · exact h _

theorem caches_of_wake? {w w' : World σ} {p : Flow Outcome} (hw : x.wake? w = some (p, w')) :
    w'.caches = w.caches := by
  rcases wake?_eq_some hw with ⟨-, rfl⟩ | ⟨ms, -, rfl⟩ | ⟨ms, r, finish, next, -, -, rfl⟩
  · rfl
  · rfl
  · rfl

end Thread

theorem Command.sent_of_mem_deeds {c : Command} {a : c.Answer} {r : Catalog.Request}
    (h : Deed.sent r ∈ c.deeds a) : c = .request r := by
  cases c with
  | request r' =>
      obtain rfl : r = r' := by simpa [Command.deeds] using h
      rfl
  | _ => simp [Command.deeds] at h

/-- A thread that goes on until it waits sends requests of the kind and stays a thread that does. -/
theorem Flow.Advances.every {P : Command → Prop} {Q : Outcome → Prop} {now : Nat} {place : Place}
    {self : ThreadId} {p : Flow Outcome} {w : World σ} {ds : List Deed} {q : Progress σ Outcome}
    (hadv : p.Advances catalog now place self w ds q) (h : p.Every P Q) :
    Thread.Every P Q (.paused q.pause) ∧ ∀ r, Deed.sent r ∈ ds → P (.request r) := by
  induction hadv with
  | ended o w => exact ⟨h, fun _ hr => nomatch hr⟩
  | asleep next w => exact ⟨h.2 (), fun _ hr => nomatch hr⟩
  | queued next _ => exact ⟨h.2 (), fun _ hr => nomatch hr⟩
  | awaiting next _ =>
      refine ⟨h.2, fun r hr => ?_⟩
      obtain rfl := Deed.sent.inj (List.mem_singleton.1 hr)
      exact h.1
  | @heldUp _ _ a _ _ _ _ _ _ hlock =>
      exact ⟨hlock ▸ h.2 a, fun r hr => Command.sent_of_mem_deeds hr ▸ h.1⟩
  | step _ _ ih =>
      obtain ⟨hpause, hsent⟩ := ih (h.2 _)
      refine ⟨hpause, fun r hr => ?_⟩
      rcases List.mem_append.1 hr with hr | hr
      · exact Command.sent_of_mem_deeds hr ▸ h.1
      · exact hsent r hr

theorem Command.Performs.remembers {k : Container} {now : Nat} {place : Place} {self : ThreadId}
    {c : Command} {a : c.Answer} {w w' : World σ} {woken : List ThreadId}
    (h : c.Performs catalog now place self w a w' woken) (hc : c.Keeps k)
    (hk : touched place.cache k) : Remembers touched w.caches w'.caches := by
  cases h with
  | changeCache x => exact .store (hc.resolve_left (by simp [Command.locks])) hk w.toData
  | _ => exact .refl _

theorem Flow.Advances.remembers {k : Container} {Q : Outcome → Prop} {now : Nat} {place : Place}
    {self : ThreadId} {p : Flow Outcome} {w : World σ} {ds : List Deed} {q : Progress σ Outcome}
    (h : p.Advances catalog now place self w ds q) (hp : p.Every (Command.Keeps k) Q)
    (hk : touched place.cache k) : Remembers touched w.caches q.world.caches := by
  induction h with
  | ended o w => exact .refl _
  | asleep next w => exact .refl _
  | awaiting next _ => exact .refl _
  | queued next _ => exact .refl _
  | heldUp hc _ => exact hc.remembers hp.1 hk
  | step hc _ ih => exact (hc.remembers hp.1 hk).trans (ih (hp.2 _))

/-! ## Jobs -/

/-- A job that works at a cache and for a container that may be touched, and at most stores records
there. -/
structure Job.Keeps (touched : Nat → Container → Prop) (t : Job σ) : Prop where
  touched : touched t.place.cache t.container
  threads : ∀ x ∈ t.threads, x.Every (Command.Keeps t.container) fun _ => True

namespace Job

variable {t : Job σ}

theorem keeps_start {p : Provisioner} {k : Container} {place : Place} {flow : Flow Outcome}
    (hk : touched place.cache k) (h : flow.Every (Command.Keeps k) fun _ => True) :
    (start p k place flow : Job σ).Keeps touched where
  touched := hk
  threads := by
    intro x hx
    obtain rfl := List.mem_singleton.1 hx
    exact h

theorem Keeps.refill (h : t.Keeps touched) : t.refill.Keeps touched where
  touched := h.touched
  threads := by
    intro x hx
    rcases List.mem_append.1 hx with hx | hx
    · exact h.threads x hx
    · obtain ⟨f, -, rfl⟩ := List.mem_map.1 hx
      exact t.provisioner.ensure_keeps t.container f

end Job

namespace Pool

def Keeps (touched : Nat → Container → Prop) (p : Pool σ) : Prop :=
  ∀ t ∈ p.jobs, t.Keeps touched

variable {p p' : Pool σ} {outside : σ → σ → Prop} {n : Nat} {ds : Chronicle}

theorem Keeps.goes (h : p.Keeps touched) {id : ThreadId} {more : List Deed}
    (hgoes : p.Goes catalog id more p') :
    p'.Keeps touched ∧ Remembers touched p.world.caches p'.world.caches := by
  cases hgoes with
  | @on t x flow w now ds q ht hx hwake hadv =>
      have hjob := h t (List.mem_of_getElem? ht)
      have hflow := (hjob.threads x (List.mem_of_getElem? hx)).wake hwake
      have hpause := (hadv.every hflow).1
      have hcaches := hadv.remembers hflow hjob.touched
      rw [Thread.caches_of_wake? hwake] at hcaches
      rw [world_after]
      refine ⟨fun t' ht' => ?_, hcaches⟩
      obtain ⟨i, hi⟩ := List.mem_iff_getElem?.1 ht'
      obtain ⟨t₀, ht₀, rfl⟩ := getElem?_jobs_after hi
      have hjob₀ := h t₀ (List.mem_of_getElem? ht₀)
      have hset : (t₀.mapThreads fun n => settle id q.pause q.woken ⟨i, n⟩).Keeps touched := by
        refine ⟨hjob₀.touched, fun y hy => ?_⟩
        obtain ⟨n, hn, rfl⟩ := List.mem_mapIdx.1 hy
        refine of_settle (P := fun y => y.Every (Command.Keeps t₀.container) fun _ => True)
          (fun _ hy => hy.grant) ?_ fun _ => hjob₀.threads _ (List.getElem_mem hn)
        rintro rfl
        obtain rfl : t = t₀ := Option.some.inj (ht.symm.trans ht₀)
        exact hpause
      simp only [settleJob]
      split
      · exact Job.Keeps.refill ⟨hset.touched, hset.threads⟩
      · exact hset

/-- However a pool runs, nothing is lost, and what may not be touched stays as it is. -/
theorem Keeps.run (h : p.Keeps touched) (hrun : Run catalog (InCatalog outside) p n ds p') :
    p'.Keeps touched ∧ Remembers touched p.world.caches p'.world.caches := by
  induction hrun with
  | start => exact ⟨h, .refl _⟩
  | goes _ hgoes ih =>
      have hnext := ih.1.goes hgoes
      exact ⟨hnext.1, ih.2.trans hnext.2⟩
  | others _ hs ih =>
      obtain ⟨s, -, rfl⟩ := hs
      exact ih

end Pool

theorem resolving_keeps (w : World σ) (rs : List Resolve) :
    (resolving w rs).Keeps fun i k => ∃ r ∈ rs, r.place.cache = i ∧ r.container = k := by
  intro t ht
  obtain ⟨r, hr, rfl⟩ := List.mem_map.1 ht
  exact Job.keeps_start ⟨r, hr, rfl, rfl⟩
    ((r.provisioner.survey_stores r.container r.requirements).mono (fun _ => Or.inr) fun _ h => h)

end DocQuery.Provision
