import DocQuery.Proofs.Provision.Coherence

/-! # Removing functions

A function is deleted from the catalog first and forgotten right afterwards, before anybody else has
a chance to look. So a cache that was coherent is coherent again by the next wait.
-/

namespace DocQuery.Provision

open Catalog (Memory Prompt)

variable {σ : Type} {memory : σ → Memory} {catalog : Catalog σ} {place : Place}

namespace Coherent

variable {m : Memory} {c : Cache}

theorem apply (h : Coherent m c) {change : Cache.Change} (hput : ∀ k r, change ≠ .put k r)
    (hmerge : ∀ k rs, change ≠ .merge k rs) : Coherent m (c.apply change) where
  distinct := h.distinct.apply change
  listed := fun hr => h.listed (h.distinct.get?_of_get?_apply hput hmerge hr)

/-- After a delete, forgetting the function makes the cache coherent again. -/
theorem forget (h : Coherent m c) {k : Container} {id : String} {rs : List Record}
    (hk : m.hosted k = .ok rs) :
    Coherent (m.setFunctions k (rs.filter (·.id ≠ id))) (c.apply (.forget k id)) where
  distinct := h.distinct.apply _
  listed := by
    intro k' id' r hr
    rw [h.distinct.get?_forget] at hr
    split at hr
    · cases hr
    · rename_i hne
      obtain ⟨link', rfl, hm, rfl⟩ := h.listed hr
      obtain ⟨link, rfl, -⟩ := Memory.hosted_eq_ok.1 hk
      refine ⟨link', rfl, ?_, rfl⟩
      have hfunctions := Memory.functions_of_hosted hk
      by_cases hlink : link' = link
      · subst hlink
        have hid : r.id ≠ id := fun he => hne ⟨rfl, he⟩
        have hr' : r ∈ rs := hfunctions ▸ hm
        simp [Memory.functions, Memory.get?_setFunctions, Container.link, hr', hid]
      · simpa [Memory.functions, Memory.get?_setFunctions, Container.link, hlink] using hm

end Coherent

/-- One cache is coherent at every wait; nothing else matters. -/
def upkeep (memory : σ → Memory) (i : Nat) : Contract σ where
  inv := fun d => Coherent (memory d.catalog) (d.caches i)
  change := fun _ _ _ => True
  atRest := fun _ _ => True
  atRest_change := fun _ _ _ => trivial

theorem upkeep_quiet (i : Nat) : (upkeep memory i).Quiet where
  change := fun _ _ _ _ _ => trivial
  inv := by
    intro d d' hs hc (hi : Coherent _ _)
    show Coherent (memory d'.catalog) (d'.caches i)
    rw [hs, hc]
    exact hi

/-- What the answer to a delete means: the function has only to be forgotten, or nothing has
happened. -/
def DeleteMeans (memory : σ → Memory) (i : Nat) (k : Container) (id : String) :
    Except Catalog.Error Unit → Data σ → Prop
  | .ok _, d => Coherent (memory d.catalog) ((d.caches i).apply (.forget k id))
  | .error _, d => Coherent (memory d.catalog) (d.caches i)

namespace Provisioner

variable {d : Data σ}

theorem delete_request (hprompt : Prompt catalog memory) {i : Nat} {k : Container} {id : String}
    (hi : (upkeep memory i).inv d) :
    (Flow.request (.delete k id)).Safe (upkeep memory i) catalog place
      (fun s a d' => s = .idle ∧ DeleteMeans memory i k id a d') .idle d := by
  have hquiet : ∀ {d₁ d₂ : Data σ}, d₂.caches = d₁.caches →
      (memory d₁.catalog).Alike (memory d₂.catalog) →
      Coherent (memory d₁.catalog) (d₁.caches i) → Coherent (memory d₂.catalog) (d₂.caches i) :=
    fun hc ha hi => hc ▸ hi.grows (.of_collections_eq ha)
  refine request_safe (r := .delete k id) (hprompt (.delete k id)) Stance.settled_idle
    (J := fun _ => True) (Q := DeleteMeans memory i k id) (fun _ _ => trivial)
    (fun d' hc ha => ⟨trivial, hquiet hc ha hi, trivial⟩) ?_ (fun _ _ _ _ h => h.elim)
    (fun _ _ _ _ _ => trivial) ?_
  · rintro d₁ d₂ reply hc ⟨rfl, ha⟩ (hi₁ : Coherent _ _) -
    refine ⟨trivial, ?_⟩
    rcases (memory d₁.catalog).serve_delete k id with ⟨e, hv, hst⟩ | ⟨rs, hk, hv, hst⟩
    · rw [hv]
      rw [hst] at ha
      exact hquiet hc ha hi₁
    · rw [hv]
      rw [hst] at ha
      show Coherent (memory d₂.catalog) ((d₂.caches i).apply (.forget k id))
      rw [hc]
      exact (hi₁.forget hk).grows (.of_collections_eq ha)
  · rintro d₁ d₂ reply - - (hi₂ : Coherent _ _)
    cases reply with
    | ok _ => exact hi₂.apply (by simp) (by simp)
    | error e => exact hi₂

theorem delete_safe (p : Provisioner) (hprompt : Prompt catalog memory) {i : Nat} {k : Container}
    {id : String} (hi : (upkeep memory i).inv d) :
    (p.persist .delete none (.delete k id)).Safe (upkeep memory i) catalog place
      (fun s a d' => s = .idle ∧ DeleteMeans memory i k id a d') .idle d := by
  refine p.persist_safe (r := .delete k id) (J := (upkeep memory i).inv)
    (Q := DeleteMeans memory i k id) Stance.settled_idle
    ((upkeep_quiet i).unaffected fun _ _ hs hc h => (upkeep_quiet i).inv hs hc h)
    (fun a => (upkeep_quiet i).unaffected fun d₁ d₂ hs hc h => ?_) (fun _ h => h)
    (fun _ _ _ _ h => h) (fun d₁ hi₁ => ?_) hi
  · cases a with
    | ok _ =>
        show Coherent (memory d₂.catalog) ((d₂.caches i).apply (.forget k id))
        rw [hs, hc]
        exact h
    | error e => exact (upkeep_quiet i).inv hs hc h
  · refine (delete_request hprompt hi₁).mono ?_
    rintro s a d₂ ⟨rfl, hq⟩
    refine ⟨rfl, hq, fun e he _ => ?_⟩
    subst he
    exact hq

theorem remove_safe (p : Provisioner) (hprompt : Prompt catalog memory) (k : Container)
    (id : String) (hi : (upkeep memory place.cache).inv d) :
    (p.remove k id).Safe (upkeep memory place.cache) catalog place
      (Ends (upkeep memory place.cache) fun o _ => ∀ rs, o = .ok rs → rs = []) .idle d := by
  have hforgotten : ∀ d' : Data σ,
      Coherent (memory d'.catalog) ((d'.caches place.cache).apply (.forget k id)) →
      (do Flow.changeCache (.forget k id); Flow.report (.removed k id); return .ok [] :
        Flow Outcome).Safe (upkeep memory place.cache) catalog place
        (Ends (upkeep memory place.cache) fun o _ => ∀ rs, o = .ok rs → rs = []) .idle d' := by
    intro d' hc
    refine Flow.safe_changeCache trivial (Flow.safe_report trivial (Flow.safe_pure ⟨rfl, ?_, ?_⟩))
    · show Coherent (memory d'.catalog) ((d'.changeCache place.cache (.forget k id)).caches _)
      simpa only [Data.changeCache, if_true] using hc
    · exact fun _ _ _ h => (Except.ok.inj h).symm
  refine Flow.safe_seq ((p.delete_safe hprompt hi).mono ?_)
  rintro s a d' ⟨rfl, ha⟩
  cases a with
  | ok _ => exact hforgotten d' ha
  | error e =>
      have hkept : Coherent (memory d'.catalog) (d'.caches place.cache) := ha
      cases e with
      | notFound what => exact hforgotten d' (hkept.apply (by simp) (by simp))
      | _ => exact Flow.safe_count trivial (Flow.safe_pure ⟨rfl, hkept, by simp⟩)

def removeDuty (p : Provisioner) (memory : σ → Memory) (catalog : Catalog σ) (k : Container)
    (place : Place) : Duty (upkeep memory place.cache) catalog where
  provisioner := p
  container := k
  place := place
  first := fun o _ => ∀ rs, o = .ok rs → rs = []
  each := fun _ _ _ => False
  closed := False.elim
  follow := by
    intro rs _ h _ r hr
    rw [h rs rfl] at hr
    cases hr

end Provisioner
end DocQuery.Provision
