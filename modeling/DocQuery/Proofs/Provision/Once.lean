import DocQuery.Proofs.Cache
import DocQuery.Proofs.Catalog.Memory
import DocQuery.Proofs.Provision.Exclusion
import DocQuery.Proofs.Provision.Parts
import DocQuery.Proofs.Provision.Resolves

/-! # Every function is created once

Resolves of one provisioner run side by side, and nobody else uses the catalog. While a thread holds
the lock of a function, only this thread asks for it to be created; when the lock is given back, a
function that was asked for is known. So whoever comes next finds it, and no create is ever asked
for twice or in vain. -/

namespace DocQuery.Provision

open Catalog (Atomic Memory Reply Request)

def creates (sent : List Request) (k : Container) (id : String) : Nat :=
  sent.countP fun r =>
    match r with
    | .create k' f => k' = k ∧ f.id = id
    | _ => false

@[simp] theorem creates_list (sent : List Request) (k k' : Container) (id : String) :
    creates (.list k' :: sent) k id = creates sent k id := by
  simp [creates]

theorem creates_create (sent : List Request) (k k' : Container) (f : Requirement) (id : String) :
    creates (.create k' f :: sent) k id =
      creates sent k id + if k' = k ∧ f.id = id then 1 else 0 := by
  simp [creates, List.countP_cons]

variable {σ : Type}

/-- What resolves of one provisioner start from, and what they require. -/
structure Situation (σ : Type) where
  memory : σ → Memory
  place : Place
  start : Data (σ × List Request)
  required : Container → String → Prop

namespace Situation

variable (S : Situation σ)

def Registered (d : Data (σ × List Request)) (link id : String) : Prop :=
  (S.memory d.catalog.1).Registered link id

def Knows (d : Data (σ × List Request)) (k : Container) (id : String) : Prop :=
  (d.caches S.place.cache).has k id = true

/-- A function that is required and has to be created, since it is neither known nor registered. -/
def Needed (k : Container) (id : String) : Prop :=
  S.required k id ∧ ¬ S.Knows S.start k id ∧ ¬ S.Registered S.start k.link id

/-- What holds whenever all threads wait. -/
structure Inv (d : Data (σ × List Request)) : Prop where
  grows : (S.memory S.start.catalog.1).Grows (S.memory d.catalog.1)
  kept : ∀ k id, S.Knows S.start k id → S.Knows d k id
  once : ∀ k id, creates d.catalog.2 k id ≤ 1
  needed : ∀ k id, creates d.catalog.2 k id ≠ 0 → S.Needed k id
  origin : ∀ link id, S.Registered d link id →
    S.Registered S.start link id ∨ creates d.catalog.2 (.collection link) id ≠ 0
  known : ∀ k id, S.Knows d k id → S.Knows S.start k id ∨ S.Registered S.start k.link id ∨
    creates d.catalog.2 k id ≠ 0

/-- What a command may change, by the key whose lock the thread holds. -/
structure Step (held : Option (Nat × LockKey)) (d d' : Data (σ × List Request)) : Prop where
  grows : (S.memory d.catalog.1).Grows (S.memory d'.catalog.1)
  knows : ∀ k id, S.Knows d k id → S.Knows d' k id
  creates : ∀ k id, held ≠ some (S.place.site, k, id) →
    creates d'.catalog.2 k id = creates d.catalog.2 k id
  registered : ∀ link id, held ≠ some (S.place.site, .collection link, id) →
    S.Registered d' link id → S.Registered d link id

variable {S} {held : Option (Nat × LockKey)} {d d' d'' : Data (σ × List Request)}

theorem Step.trans (h : S.Step held d d') (h' : S.Step held d' d'') : S.Step held d d'' where
  grows := h.grows.trans h'.grows
  knows := fun k id hk => h'.knows k id (h.knows k id hk)
  creates := fun k id hk => (h'.creates k id hk).trans (h.creates k id hk)
  registered := fun link id hk hr => h.registered link id hk (h'.registered link id hk hr)

theorem Step.of_alike (hc : d'.caches = d.caches)
    (hm : (S.memory d.catalog.1).Alike (S.memory d'.catalog.1))
    (hs : ∀ k id, Provision.creates d'.catalog.2 k id = Provision.creates d.catalog.2 k id) :
    S.Step held d d' where
  grows := .of_collections_eq hm
  knows := by
    intro k id hk
    rwa [Knows, hc]
  creates := fun k id _ => hs k id
  registered := fun _ _ _ => (Memory.registered_congr hm).1

theorem Inv.of_alike (h : S.Inv d) (hc : d'.caches = d.caches)
    (hm : (S.memory d.catalog.1).Alike (S.memory d'.catalog.1))
    (hs : ∀ k id, creates d'.catalog.2 k id = creates d.catalog.2 k id) : S.Inv d' := by
  have hk : ∀ k id, S.Knows d' k id ↔ S.Knows d k id := fun k id => by rw [Knows, Knows, hc]
  constructor
  · exact h.grows.trans (.of_collections_eq hm)
  · exact fun k id hk' => (hk k id).2 (h.kept k id hk')
  · exact fun k id => hs k id ▸ h.once k id
  · exact fun k id hn => h.needed k id (hs k id ▸ hn)
  · exact fun link id hr => hs _ id ▸ h.origin link id ((Memory.registered_congr hm).1 hr)
  · exact fun k id hk' => hs k id ▸ h.known k id ((hk k id).1 hk')

/-- The contract: who gives a lock back leaves what was asked for known. -/
def once (S : Situation σ) : Contract (σ × List Request) where
  inv := S.Inv
  change := S.Step
  atRest := fun key d => key.1 = S.place.site → creates d.catalog.2 key.2.1 key.2.2 ≠ 0 →
    S.Knows d key.2.1 key.2.2
  atRest_change := by
    rintro held ⟨site, k, id⟩ d d' hc hne ha rfl hn
    rw [hc.creates k id hne] at hn
    exact hc.knows k id (ha rfl hn)

theorem Step.of_same (hc : d'.caches = d.caches) (hs : d'.catalog = d.catalog) :
    S.Step held d d' :=
  .of_alike hc (by rw [hs]; rfl) (by simp [hs])

theorem Inv.of_same (h : S.Inv d) (hc : d'.caches = d.caches) (hs : d'.catalog = d.catalog) :
    S.Inv d' :=
  h.of_alike hc (by rw [hs]; rfl) (by simp [hs])

/-! ## What others do -/

theorem rely_grows (h : S.once.Rely held d d') :
    (S.memory d.catalog.1).Grows (S.memory d'.catalog.1) :=
  h.keeps (P := fun d' => (S.memory d.catalog.1).Grows (S.memory d'.catalog.1))
    (fun _ _ _ _ hc hg => hg.trans hc.grows) (.refl _)

theorem rely_knows (h : S.once.Rely held d d') {k : Container} {id : String}
    (hk : S.Knows d k id) : S.Knows d' k id :=
  h.keeps (P := fun d => S.Knows d k id) (fun _ _ _ _ hc => hc.knows k id) hk

/-- While a thread holds the lock of a function, others neither ask for it to be created nor
register it. -/
theorem rely_held {k : Container} {id : String}
    (h : S.once.Rely (some (S.place.site, k, id)) d d') :
    creates d'.catalog.2 k id = creates d.catalog.2 k id ∧
      (∀ link, k = .collection link → S.Registered d' link id → S.Registered d link id) := by
  refine h.keeps (P := fun d' => creates d'.catalog.2 k id = creates d.catalog.2 k id ∧
    (∀ link, k = .collection link → S.Registered d' link id → S.Registered d link id)) ?_
    ⟨rfl, fun _ _ hr => hr⟩
  rintro other d₁ d₂ ho hc ⟨hcreates, hreg⟩
  have hne := ho.resolve_left (by simp)
  refine ⟨(hc.creates k id hne).trans hcreates, fun link hk hr => hreg link hk ?_⟩
  subst hk
  exact hc.registered link id hne hr

/-! ## Remembering -/

theorem Step.merge (d : Data (σ × List Request)) (k : Container) (rs : List Record) :
    S.Step held d (d.changeCache S.place.cache (.merge k rs)) where
  grows := .refl _
  knows := by
    intro k' id hk
    simp only [Knows, Data.changeCache, if_true]
    exact (Cache.has_merge _ _ _ _ _).2 (Or.inl hk)
  creates := fun _ _ _ => rfl
  registered := fun _ _ _ hr => hr

theorem knows_merge (d : Data (σ × List Request)) {k : Container} {rs : List Record} {id : String}
    (h : ∃ r ∈ rs, r.id = id) : S.Knows (d.changeCache S.place.cache (.merge k rs)) k id := by
  simp only [Knows, Data.changeCache, if_true]
  exact (Cache.has_merge _ _ _ _ _).2 (Or.inr ⟨rfl, h⟩)

/-- What was registered at the start, or was asked to be created, can be remembered. -/
theorem Inv.merge (h : S.Inv d) {k : Container} {rs : List Record}
    (hrs : ∀ r ∈ rs, S.Registered S.start k.link r.id ∨ creates d.catalog.2 k r.id ≠ 0) :
    S.Inv (d.changeCache S.place.cache (.merge k rs)) where
  grows := h.grows
  kept := fun k' id hk => (Step.merge d k rs : S.Step none d _).knows k' id (h.kept k' id hk)
  once := h.once
  needed := h.needed
  origin := h.origin
  known := by
    intro k' id hk
    simp only [Knows, Data.changeCache, if_true] at hk
    rcases (Cache.has_merge _ _ _ _ _).1 hk with hk | ⟨rfl, r, hr, rfl⟩
    · exact h.known k' id hk
    · exact Or.inr (hrs r hr)

/-! ## Requests -/

def Shows (S : Situation σ) (k : Container) :
    Except Catalog.Error (List Record) → Data (σ × List Request) → Prop
  | .ok rs, d => (∀ r ∈ rs, S.Registered d k.link r.id) ∧
    ∀ id, S.Registered S.start k.link id → ∃ r ∈ rs, r.id = id
  | .error _, _ => False

def Grants (k : Container) (f : Requirement) :
    Except Catalog.Error Record → Data (σ × List Request) → Prop
  | .ok r, d => r.id = f.id ∧ creates d.catalog.2 k f.id ≠ 0
  | .error _, _ => False

variable {catalog : Catalog σ} {s : Stance} {place : Place}

theorem once_quiet (S : Situation σ) : S.once.Quiet where
  change := fun _ {_ _} hs hc => Step.of_same hc hs
  inv := fun hs hc hi => hi.of_same hc hs

theorem Shows.grows {k : Container} {a : Except Catalog.Error (List Record)}
    (h : S.Shows k a d) (hg : (S.memory d.catalog.1).Grows (S.memory d'.catalog.1)) :
    S.Shows k a d' := by
  cases a with
  | ok rs => exact ⟨fun r hr => hg.registered (h.1 r hr), h.2⟩
  | error e => exact h

theorem list_request (hat : Atomic catalog S.memory) (hs : s.Settled) {k : Container}
    (hk : ∃ rs, (S.memory S.start.catalog.1).hosted k = .ok rs) (hi : S.Inv d) :
    (Flow.request (.list k)).Safe S.once catalog.recorded place (fun s' a d' => s' = s ∧ S.Inv d' ∧
      (∀ k id, S.Knows d k id → S.Knows d' k id) ∧ S.Shows k a d') s d := by
  have hquiet : ∀ {d₁ d₂ : Data (σ × List Request)}, d₂.caches = d₁.caches →
      (S.memory d₁.catalog.1).Alike (S.memory d₂.catalog.1) →
      (d₂.catalog.2 = d₁.catalog.2 ∨ d₂.catalog.2 = .list k :: d₁.catalog.2) →
      S.Inv d₁ → S.Step (s.held place) d₁ d₂ ∧ S.Inv d₂ := by
    intro d₁ d₂ hc ha hlog hi
    have hsent : ∀ k id, creates d₂.catalog.2 k id = creates d₁.catalog.2 k id := by
      rcases hlog with hlog | hlog <;> simp [hlog]
    exact ⟨.of_alike hc ha hsent, hi.of_alike hc ha hsent⟩
  refine request_safe (hat (.list k)).recorded hs
    (J := fun d' => ∀ k id, S.Knows d k id → S.Knows d' k id)
    (Q := fun a d' => S.Inv d' ∧ (∀ k id, S.Knows d k id → S.Knows d' k id) ∧ S.Shows k a d')
    Step.trans ?_ ?_ ?_ (fun _ _ hj hr _ k id h => rely_knows hr (hj k id h))
    (fun _ _ _ hq hr hi' =>
      ⟨hi', fun k id h => rely_knows hr (hq.2.1 k id h), hq.2.2.grows (rely_grows hr)⟩)
  · rintro d' hc ⟨ha, hlog⟩
    obtain ⟨hstep, hi'⟩ := hquiet hc ha (Or.inr hlog) hi
    exact ⟨hstep, hi', hstep.knows⟩
  · rintro d₁ d₂ reply hc ⟨⟨rfl, ha⟩, hlog⟩ hi₁ hj
    rw [((S.memory d₁.catalog.1).serve_list k).1]
    rw [((S.memory d₁.catalog.1).serve_list k).2] at ha
    obtain ⟨hstep, hi₂⟩ := hquiet hc ha (Or.inl hlog) hi₁
    refine ⟨hstep, hi₂, fun k id h => hstep.knows k id (hj k id h), ?_⟩
    obtain ⟨rs₀, hrs₀⟩ := hk
    obtain ⟨rs, hrs⟩ := hi₁.grows.hosted hrs₀
    have hfunctions := Memory.functions_of_hosted hrs
    rw [hrs]
    refine ⟨fun r hr => hstep.grows.registered ⟨r, hfunctions ▸ hr, rfl⟩, fun id hid => ?_⟩
    obtain ⟨r, hr, hid⟩ := hi₁.grows.registered hid
    exact ⟨r, hfunctions ▸ hr, hid⟩
  · rintro d₁ d₂ reply hc ⟨ha, hlog⟩ ⟨hi₁, hj, hq⟩
    obtain ⟨hstep, hi₂⟩ := hquiet hc ha (Or.inl hlog) hi₁
    exact ⟨hi₁, hstep, hi₂, fun k id h => hstep.knows k id (hj k id h), hq.grows hstep.grows⟩

theorem list_safe (p : Provisioner) (hat : Atomic catalog S.memory) (hs : s.Settled)
    {k : Container} (hk : ∃ rs, (S.memory S.start.catalog.1).hosted k = .ok rs) (hi : S.Inv d) :
    (p.persist .list (some .listCalls) (.list k)).Safe S.once catalog.recorded place
      (fun s' a d' => s' = s ∧ S.Inv d' ∧ (∀ k id, S.Knows d k id → S.Knows d' k id) ∧
        S.Shows k a d') s d := by
  have hsame : ∀ d₁ d₂ : Data (σ × List Request), d₂.catalog = d₁.catalog → d₂.caches = d₁.caches →
      S.Inv d₁ ∧ (∀ k id, S.Knows d k id → S.Knows d₁ k id) →
      S.Inv d₂ ∧ (∀ k id, S.Knows d k id → S.Knows d₂ k id) := fun d₁ d₂ hs hc h =>
    ⟨h.1.of_same hc hs, fun k id hk => (Step.of_same hc hs : S.Step none d₁ d₂).knows k id
      (h.2 k id hk)⟩
  refine (p.persist_safe (r := .list k)
    (J := fun d' => S.Inv d' ∧ ∀ k id, S.Knows d k id → S.Knows d' k id)
    (Q := fun a d' => (S.Inv d' ∧ ∀ k id, S.Knows d k id → S.Knows d' k id) ∧ S.Shows k a d')
    hs (S.once_quiet.unaffected hsame) (fun a => S.once_quiet.unaffected ?_) (fun _ h => h.1) ?_ ?_
    ⟨hi, fun _ _ h => h⟩).mono fun s' a d' h => ⟨h.1, h.2.1.1, h.2.1.2, h.2.2⟩
  · exact fun d₁ d₂ hs hc h => ⟨hsame d₁ d₂ hs hc h.1, h.2.grows (hs ▸ .refl _)⟩
  · exact fun d₁ d₂ h hr hi' => ⟨hi', fun k id hk => rely_knows hr (h.2 k id hk)⟩
  · intro d₁ h
    refine (list_request hat hs hk h.1).mono ?_
    rintro s' a d₂ ⟨rfl, hi', hmono, hq⟩
    have hj : S.Inv d₂ ∧ ∀ k id, S.Knows d k id → S.Knows d₂ k id :=
      ⟨hi', fun k id hk => hmono k id (h.2 k id hk)⟩
    exact ⟨rfl, ⟨hj, hq⟩, fun _ _ _ => hj⟩

theorem Inv.sends {k : Container} {f : Requirement} (h : S.Inv d) (hw : S.Needed k f.id)
    (hn : creates d.catalog.2 k f.id = 0) (hc : d'.caches = d.caches)
    (hm : (S.memory d.catalog.1).Alike (S.memory d'.catalog.1))
    (hlog : d'.catalog.2 = .create k f :: d.catalog.2) :
    S.Inv d' ∧ S.Step (some (S.place.site, k, f.id)) d d' := by
  have hsame : ∀ k' id, ¬ (k = k' ∧ f.id = id) →
      creates d'.catalog.2 k' id = creates d.catalog.2 k' id := fun k' id hne => by
    rw [hlog, creates_create, if_neg hne, Nat.add_zero]
  have hone : creates d'.catalog.2 k f.id = 1 := by
    rw [hlog, creates_create, hn, if_pos ⟨rfl, rfl⟩]
  have hmore : ∀ k' id, creates d.catalog.2 k' id ≠ 0 → creates d'.catalog.2 k' id ≠ 0 :=
    fun k' id hne => by rw [hlog, creates_create]; omega
  have hk : ∀ k id, S.Knows d' k id ↔ S.Knows d k id := fun k id => by rw [Knows, Knows, hc]
  refine ⟨⟨h.grows.trans (.of_collections_eq hm), fun k' id hk' => (hk k' id).2 (h.kept k' id hk'),
    fun k' id => ?_, fun k' id hne => ?_, fun link id hr => ?_, fun k' id hk' => ?_⟩,
    ⟨.of_collections_eq hm, fun k' id => (hk k' id).2, fun k' id hheld => hsame k' id ?_,
      fun link id _ => (Memory.registered_congr hm).1⟩⟩
  · by_cases heq : k = k' ∧ f.id = id
    · obtain ⟨rfl, rfl⟩ := heq
      exact Nat.le_of_eq hone
    · exact hsame k' id heq ▸ h.once k' id
  · by_cases heq : k = k' ∧ f.id = id
    · obtain ⟨rfl, rfl⟩ := heq
      exact hw
    · exact h.needed k' id (hsame k' id heq ▸ hne)
  · exact (h.origin link id ((Memory.registered_congr hm).1 hr)).imp_right (hmore _ id)
  · exact (h.known k' id ((hk k' id).1 hk')).imp_right (.imp_right (hmore k' id))
  · rintro ⟨rfl, rfl⟩
    exact hheld rfl

theorem Inv.registers {k : Container} {rs : List Record} {r : Record} (h : S.Inv d)
    (hn : creates d.catalog.2 k r.id ≠ 0) (hk : (S.memory d.catalog.1).hosted k = .ok rs)
    (hfree : ∀ x ∈ rs, x.id ≠ r.id) (hc : d'.caches = d.caches)
    (hm : ((S.memory d.catalog.1).setFunctions k (rs ++ [r])).Alike (S.memory d'.catalog.1))
    (hlog : d'.catalog.2 = d.catalog.2) :
    S.Inv d' ∧ S.Step (some (S.place.site, k, r.id)) d d' := by
  obtain ⟨link, rfl, -⟩ := Memory.hosted_eq_ok.1 hk
  have hgrows : (S.memory d.catalog.1).Grows (S.memory d'.catalog.1) :=
    (Memory.Grows.setFunctions hk hfree).trans (.of_collections_eq hm)
  have hreg : ∀ link' id, S.Registered d' link' id →
      S.Registered d link' id ∨ (link' = link ∧ r.id = id) := fun link' id hr =>
    (Memory.registered_setFunctions hk r).1 ((Memory.registered_congr hm).1 hr)
  have hk' : ∀ k id, S.Knows d' k id ↔ S.Knows d k id := fun k id => by rw [Knows, Knows, hc]
  refine ⟨⟨h.grows.trans hgrows, fun k id hk => (hk' k id).2 (h.kept k id hk), hlog ▸ h.once,
    hlog ▸ h.needed, fun link' id hr => ?_, fun k id hk => hlog ▸ h.known k id ((hk' k id).1 hk)⟩,
    ⟨hgrows, fun k id => (hk' k id).2, fun k id _ => by rw [hlog], fun link' id hheld hr => ?_⟩⟩
  · rcases hreg link' id hr with hr | ⟨rfl, rfl⟩
    · exact hlog ▸ h.origin link' id hr
    · exact Or.inr (hlog ▸ hn)
  · rcases hreg link' id hr with hr | ⟨rfl, rfl⟩
    · exact hr
    · exact absurd rfl hheld

theorem Grants.of_eq {k : Container} {f : Requirement} {a : Except Catalog.Error Record}
    (h : Grants k f a d) (hn : creates d'.catalog.2 k f.id = creates d.catalog.2 k f.id) :
    Grants k f a d' := by
  cases a with
  | ok r => exact ⟨h.1, hn ▸ h.2⟩
  | error e => exact h

/-- Under the lock, the first to ask for a function gets it created. -/
theorem create_request (hat : Atomic catalog S.memory) {k : Container} {f : Requirement}
    {l : LockId} (hk : ∃ rs, (S.memory S.start.catalog.1).hosted k = .ok rs)
    (hw : S.Needed k f.id) (hi : S.Inv d) (hn : creates d.catalog.2 k f.id = 0) :
    (Flow.request (.create k f)).Safe S.once catalog.recorded S.place
      (fun s' a d' => s' = .holder (k, f.id) l ∧ S.Inv d' ∧ Grants k f a d')
      (.holder (k, f.id) l) d := by
  obtain ⟨rs₀, hrs₀⟩ := hk
  obtain ⟨link, rfl, -⟩ := Memory.hosted_eq_ok.1 hrs₀
  refine request_safe (hat (.create (.collection link) f)).recorded (Stance.settled_holder _ _)
    (J := fun d' => creates d'.catalog.2 (.collection link) f.id ≠ 0 ∧
      ¬ S.Registered d' link f.id)
    (Q := fun a d' => S.Inv d' ∧ Grants (.collection link) f a d')
    Step.trans ?_ ?_ ?_ ?_ ?_
  · rintro d' hc ⟨ha, hlog⟩
    obtain ⟨hi', hstep⟩ := hi.sends hw hn hc ha hlog
    refine ⟨hstep, hi', by rw [hlog, creates_create, if_pos ⟨rfl, rfl⟩]; omega, fun hr => ?_⟩
    rcases hi.origin link f.id ((Memory.registered_congr ha).1 hr) with hr | hne
    · exact hw.2.2 hr
    · exact hne hn
  · rintro d₁ d₂ reply hc ⟨⟨rfl, ha⟩, hlog⟩ hi₁ ⟨hne, hreg⟩
    rcases (S.memory d₁.catalog.1).serve_create (.collection link) f with ⟨e, hk, -, -⟩ |
      ⟨rs, hk, ⟨r, hr, hid⟩, -, -⟩ | ⟨rs, hk, hfree, hv, hst⟩
    · obtain ⟨rs, hrs⟩ := hi₁.grows.hosted hrs₀
      rw [hk] at hrs
      cases hrs
    · exact absurd ⟨r, Memory.functions_of_hosted hk ▸ hr, hid⟩ hreg
    · rw [hst] at ha
      rw [hv]
      obtain ⟨hi₂, hstep⟩ := hi₁.registers hne hk hfree hc ha hlog
      exact ⟨hstep, hi₂, rfl, hlog ▸ hne⟩
  · rintro d₁ d₂ reply hc ⟨ha, hlog⟩ ⟨hi₁, hq⟩
    have hsent : ∀ k id, creates d₂.catalog.2 k id = creates d₁.catalog.2 k id := by simp [hlog]
    exact ⟨hi₁, .of_alike hc ha hsent, hi₁.of_alike hc ha hsent, hq.of_eq (hsent _ _)⟩
  · rintro d₁ d₂ ⟨hne, hreg⟩ hr -
    obtain ⟨hcreates, hback⟩ := rely_held hr
    exact ⟨hcreates ▸ hne, fun h => hreg (hback link rfl h)⟩
  · exact fun d₁ d₂ reply hq hr hi' => ⟨hi', hq.2.of_eq (rely_held hr).1⟩

theorem create_safe (p : Provisioner) (hat : Atomic catalog S.memory) {k : Container}
    {f : Requirement} {l : LockId} (hk : ∃ rs, (S.memory S.start.catalog.1).hosted k = .ok rs)
    (hw : S.Needed k f.id) (hi : S.Inv d) (hn : creates d.catalog.2 k f.id = 0) :
    (p.persist .create (some .createCalls) (.create k f)).Safe S.once catalog.recorded S.place
      (fun s' a d' => s' = .holder (k, f.id) l ∧ S.Inv d' ∧ Grants k f a d')
      (.holder (k, f.id) l) d := by
  refine p.persist_safe (r := .create k f)
    (J := fun d' => S.Inv d' ∧ creates d'.catalog.2 k f.id = 0)
    (Q := fun a d' => S.Inv d' ∧ Grants k f a d') (Stance.settled_holder _ _)
    (S.once_quiet.unaffected fun d₁ d₂ hs hc h => ⟨h.1.of_same hc hs, hs ▸ h.2⟩)
    (fun a => S.once_quiet.unaffected fun d₁ d₂ hs hc h =>
      ⟨h.1.of_same hc hs, h.2.of_eq (by rw [hs])⟩)
    (fun _ h => h.1) (fun d₁ d₂ h hr hi' => ⟨hi', (rely_held hr).1.trans h.2⟩) (fun d₁ h => ?_)
    ⟨hi, hn⟩
  refine (create_request hat hk hw h.1 h.2).mono ?_
  rintro s' a d₂ ⟨rfl, hi', hq⟩
  refine ⟨rfl, ⟨hi', hq⟩, fun e he _ => ?_⟩
  subst he
  exact absurd hq id

/-! ## The parts of a resolve -/

/-- A listing that is remembered covers everything that was registered at the start. -/
theorem refresh_safe (p : Provisioner) (hat : Atomic catalog S.memory) (hs : s.Settled)
    {k : Container} (hk : ∃ rs, (S.memory S.start.catalog.1).hosted k = .ok rs) (hi : S.Inv d) :
    (p.refresh k).Safe S.once catalog.recorded S.place (fun s' o d' => s' = s ∧ S.Inv d' ∧
      (∀ k id, S.Knows d k id → S.Knows d' k id) ∧ o = .ok () ∧
      ∀ id, S.Registered S.start k.link id → S.Knows d' k id) s d := by
  refine Flow.safe_seq ((list_safe p hat hs hk hi).mono ?_)
  rintro s' a d' ⟨rfl, hi', hmono, ha⟩
  cases a with
  | error e => exact absurd ha id
  | ok records =>
      obtain ⟨rs₀, hrs₀⟩ := hk
      obtain ⟨link, rfl, -⟩ := Memory.hosted_eq_ok.1 hrs₀
      have hold : ∀ r ∈ records, S.Registered S.start link r.id ∨
          creates d'.catalog.2 (.collection link) r.id ≠ 0 := fun r hr =>
        hi'.origin link r.id (ha.1 r hr)
      refine Flow.safe_catalogName (Flow.safe_report (Step.of_same rfl rfl)
        (Flow.safe_changeCache (Step.merge _ _ _) (Flow.safe_pure ?_)))
      refine ⟨rfl, Inv.merge (d := d'.report _) (hi'.of_same rfl rfl) hold, fun k id h => ?_, rfl,
        fun id hid => knows_merge _ (ha.2 id hid)⟩
      exact (Step.merge _ _ _ : S.Step none _ _).knows k id (hmono k id h)

def Supplied (S : Situation σ) (k : Container) (f : Requirement) :
    Outcome → Data (σ × List Request) → Prop
  | .ok rs, d => rs = [] ∧ S.Knows d k f.id
  | .error _, _ => False

theorem Supplied.rely {k : Container} {f : Requirement} {o : Outcome} (h : S.Supplied k f o d)
    (hr : S.once.Rely held d d') : S.Supplied k f o d' := by
  cases o with
  | ok rs => exact ⟨h.1, rely_knows hr h.2⟩
  | error e => exact h

/-- Whoever gets the lock finds the function known, or nobody has asked for it yet. -/
theorem ensureLocked_safe (p : Provisioner) (hat : Atomic catalog S.memory) {k : Container}
    {f : Requirement} {l : LockId} (hk : ∃ rs, (S.memory S.start.catalog.1).hosted k = .ok rs)
    (hw : S.Needed k f.id) (hi : S.Inv d) (ha : S.once.atRest (S.place.site, k, f.id) d) :
    (p.ensureLocked k f).Safe S.once catalog.recorded S.place (fun s' o d' =>
      s' = .holder (k, f.id) l ∧ S.Inv d' ∧ S.Supplied k f o d') (.holder (k, f.id) l) d := by
  refine Flow.safe_readCache ?_
  by_cases hknown : (d.caches S.place.cache).has k f.id = true
  · rw [if_pos hknown]
    exact Flow.safe_report (Step.of_same rfl rfl)
      (Flow.safe_pure ⟨rfl, hi.of_same rfl rfl, rfl, hknown⟩)
  · rw [if_neg hknown]
    have hn : creates d.catalog.2 k f.id = 0 := Nat.eq_zero_of_not_pos fun hpos =>
      hknown (ha rfl (Nat.ne_of_gt hpos))
    refine Flow.safe_seq ((create_safe p hat hk hw hi hn).mono ?_)
    rintro s' a d' ⟨rfl, hi', ha⟩
    cases a with
    | error e => exact absurd ha id
    | ok r =>
        obtain ⟨hid, hne⟩ := ha
        have hcreated : ∀ x ∈ [r], S.Registered S.start k.link x.id ∨
            creates d'.catalog.2 k x.id ≠ 0 := fun x hx => by
          obtain rfl := List.mem_singleton.1 hx
          exact Or.inr (hid ▸ hne)
        refine Flow.safe_report (Step.of_same rfl rfl) (Flow.safe_count (Step.of_same rfl rfl)
          (Flow.safe_changeCache (Step.merge _ _ [r]) (Flow.safe_pure ⟨rfl, ?_, rfl, ?_⟩)))
        · exact Inv.merge (d := (d'.report _).count _ _) (hi'.of_same rfl rfl) hcreated
        · exact knows_merge _ ⟨r, List.mem_singleton.2 rfl, hid⟩

theorem ensure_supplied (p : Provisioner) (hat : Atomic catalog S.memory) {k : Container}
    {f : Requirement} (hk : ∃ rs, (S.memory S.start.catalog.1).hosted k = .ok rs)
    (hw : S.Needed k f.id) (hi : S.Inv d) :
    (p.ensure k f).Safe S.once catalog.recorded S.place (Ends S.once (S.Supplied k f)) .idle d := by
  refine p.ensure_safe hi fun l d' _ hi' ha => ?_
  refine (ensureLocked_safe p hat hk hw hi' ha).mono ?_
  rintro s' o d'' ⟨rfl, hi'', hp⟩
  refine ⟨rfl, fun _ _ => ?_, hi'', fun _ hr => hp.rely hr⟩
  cases o with
  | ok rs => exact hp.2
  | error e => exact absurd hp id

/-- What finding out what is missing comes to: only what has to be created is left. -/
def LeavesNeeded (S : Situation σ) (k : Container) (rs : List Requirement) :
    Outcome → Data (σ × List Request) → Prop
  | .ok rest, d => (∀ r ∈ rest, S.Needed k r.id) ∧
    ∀ r ∈ rs, S.Knows d k r.id ∨ ∃ r' ∈ rest, r'.id = r.id
  | .error _, _ => False

theorem survey_leaves (p : Provisioner) (hat : Atomic catalog S.memory) {k : Container}
    {rs : List Requirement} (hk : ∃ rs, (S.memory S.start.catalog.1).hosted k = .ok rs)
    (hrequired : ∀ r ∈ rs, S.required k r.id) (hi : S.Inv d) :
    (p.survey k rs).Safe S.once catalog.recorded S.place (Ends S.once (S.LeavesNeeded k rs)) .idle
      d := by
  refine p.survey_ends S.once_quiet ?_ hi
    (fun hknown => ⟨by simp, fun r hr => Or.inl (hknown r hr)⟩) (fun hhosts => ?_)
    ((refresh_safe p hat Stance.settled_idle hk hi).mono ?_)
  · rintro o d₁ d₂ h hr
    cases o with
    | ok rest => exact ⟨h.1, fun r hm => (h.2 r hm).imp_left (rely_knows hr)⟩
    | error e => exact h
  · obtain ⟨fs, hfs⟩ := hk
    obtain ⟨link, rfl, -⟩ := Memory.hosted_eq_ok.1 hfs
    cases hhosts
  · rintro s' o d' ⟨rfl, hi', hmono, rfl, hall⟩
    refine ⟨rfl, hi', hmono k, fun rest hrest hcover => ⟨fun r hr => ?_, hcover⟩⟩
    obtain ⟨hm, hunknown⟩ := hrest r hr
    have hnot : ¬ S.Knows d' k r.id := fun h => by simp [Knows, hunknown] at h
    exact ⟨hrequired r hm, fun h => hnot (hi'.kept k r.id h), fun h => hnot (hall r.id h)⟩

/-! ## Resolves side by side -/

def of (memory : σ → Memory) (place : Place) (w : World (σ × List Request))
    (rs : List Resolve) : Situation σ where
  memory := memory
  place := place
  start := w.toData
  required := fun k id => ∃ r ∈ rs, r.container = k ∧ ∃ f ∈ r.requirements, f.id = id

/-- What a resolve owes to the others. A resolve elsewhere would owe nothing. -/
def duty (S : Situation σ) (hat : Atomic catalog S.memory) (r : Resolve) :
    Duty S.once catalog.recorded where
  provisioner := r.provisioner
  container := r.container
  place := S.place
  first := fun o d => (∃ fs, (S.memory S.start.catalog.1).hosted r.container = .ok fs) ∧
    S.LeavesNeeded r.container r.requirements o d
  each := S.Supplied r.container
  closed := fun h => h.1
  follow := fun h hi f hf => ensure_supplied r.provisioner hat h.1 (h.2.1 f hf) hi

theorem inv_start {w : World (σ × List Request)} {rs : List Resolve} {memory : σ → Memory}
    {place : Place} (hsent : w.catalog.2 = []) : (of memory place w rs).Inv w.toData where
  grows := .refl _
  kept := fun _ _ h => h
  once := fun _ _ => by simp [hsent, creates]
  needed := fun _ _ h => absurd (by simp [hsent, creates]) h
  origin := fun _ _ h => Or.inl h
  known := fun _ _ h => Or.inl h

theorem duty_fits (hat : Atomic catalog S.memory) {r : Resolve} (hplace : r.place = S.place)
    (hlive : ∃ fs, (S.memory S.start.catalog.1).hosted r.container = .ok fs)
    (hrequired : ∀ f ∈ r.requirements, S.required r.container f.id) : Fits (S.duty hat) r where
  provisioner := rfl
  container := rfl
  place := hplace.symm
  first := by
    intro d hi
    rw [hplace]
    refine (survey_leaves r.provisioner hat hlive hrequired hi).mono ?_
    rintro s o d' ⟨hs, hi', hq⟩
    exact ⟨hs, hi', fun d'' hr => ⟨hlive, hq d'' hr⟩⟩

theorem of_safe {memory : σ → Memory} (hat : Atomic catalog memory)
    {w : World (σ × List Request)} (hsent : w.catalog.2 = []) (hlocks : ∀ i, w.locks i = {})
    {rs : List Resolve} (hplace : ∀ r ∈ rs, r.place = place)
    (hlive : ∀ r ∈ rs, ∃ fs, (memory w.catalog.1).hosted r.container = .ok fs) :
    (resolving w rs).Safe (duties ((of memory place w rs).duty hat) rs) fun _ => .idle :=
  resolving_safe
    (fun r hr => duty_fits hat (hplace r hr) (hlive r hr) fun f hf => ⟨r, hr, rfl, f, hf, rfl⟩)
    (inv_start hsent) (fun _ _ hne => absurd (by simp [hsent, creates]) hne)
    (fun i => hlocks i ▸ LockTable.inOrder_empty)

/-- A resolve that kept its promises has succeeded, and everything that it asked for is known. -/
theorem duty_known {hat : Atomic catalog S.memory} {r : Resolve} {result : Except Error Unit}
    (h : (S.duty hat r).Kept result d) :
    result = .ok () ∧ ∀ f ∈ r.requirements, S.Knows d r.container f.id := by
  cases result with
  | error e =>
      rcases h with hfirst | ⟨f, rest, -, -, heach⟩
      · exact absurd hfirst.2 id
      · exact absurd heach id
  | ok _ =>
      obtain ⟨rest, hfirst, heach⟩ := h
      refine ⟨rfl, fun f hf => ?_⟩
      rcases hfirst.2.2 f hf with h | ⟨f', hf', hid⟩
      · exact h
      · exact hid ▸ (heach f' hf').2

/-- What holds while resolves of one provisioner run: those that finish succeed; no function is
asked to be created twice, or without need; and no two threads provide one function at a time. At
the end all functions that had to be created are, and nobody is left in the lock table. -/
structure CreatesOnce (S : Situation σ) (p : Pool (σ × List Request)) : Prop where
  succeeds : ∀ t ∈ p.jobs, t.isFinished = true → t.result = .ok ()
  once : ∀ k id, creates p.world.catalog.2 k id ≤ 1
  needed : ∀ k id, creates p.world.catalog.2 k id ≠ 0 → S.Needed k id
  exclusive : ∀ {i j : ThreadId} {x y : Thread (σ × List Request)} {a b : Provisioner}
    {k : Container} {f g : Requirement}, p.thread? i = some x → p.thread? j = some y →
    x.Inside a k f → y.Inside b k g → f.id = g.id → i = j
  complete : (∀ t ∈ p.jobs, t.isFinished = true) →
    ∀ k id, S.Needed k id → creates p.world.catalog.2 k id = 1
  unlocked : (∀ t ∈ p.jobs, t.isFinished = true) → (p.world.locks S.place.site).serving = []

end Situation

/-- Resolves of one provisioner that run at the same time create every function once, and all of
them finish. -/
theorem resolves_create_once {memory : σ → Memory} {catalog : Catalog σ}
    (hat : Atomic catalog memory) {w : World (σ × List Request)} (hsent : w.catalog.2 = [])
    (hlocks : ∀ i, w.locks i = {}) {place : Place} {rs : List Resolve}
    (hplace : ∀ r ∈ rs, r.place = place)
    (hlive : ∀ r ∈ rs, ∃ fs, (memory w.catalog.1).hosted r.container = .ok fs) {n : Nat}
    {ds : Chronicle} {p : Pool (σ × List Request)}
    (hrun : Pool.Run catalog.recorded (fun _ _ => False) (resolving w rs) n ds p) :
    n ≤ totalSteps rs ∧
    ((∀ now id, p.resume? catalog.recorded now id = none) → ∀ t ∈ p.jobs, t.isFinished = true) ∧
    (Situation.of memory place w rs).CreatesOnce p := by
  have hsafe := Situation.of_safe hat hsent hlocks hplace hlive
  have hnobody : ∀ (d : Data (σ × List Request)) (s : σ × List Request),
      (Situation.of memory place w rs).once.inv d → False →
      (Situation.of memory place w rs).once.change none d { d with catalog := s } ∧
        (Situation.of memory place w rs).once.inv { d with catalog := s } :=
    fun _ _ _ h => h.elim
  have halone : Pool.Run catalog.recorded (InCatalog fun _ _ => False) (resolving w rs) n ds p :=
    hrun.mono fun _ _ h => h.elim
  obtain ⟨hn, hfin⟩ := resolving_finishes hsafe hnobody halone
  obtain ⟨⟨stance, hend⟩, -⟩ := hsafe.run hnobody halone
  have hinv : (Situation.of memory place w rs).Inv p.world.toData := hend.inv
  refine ⟨hn, hfin, ⟨fun t ht hf => ?_, hinv.once, hinv.needed, fun hx hy hin hin' hid =>
    hend.inside_unique hx hy rfl hid hin hin', fun hall k id hw => ?_, fun hall =>
    (hend.unlocked hall _).serving_nil fun _ => rfl⟩⟩
  · obtain ⟨i, hi⟩ := List.mem_iff_getElem?.1 ht
    obtain ⟨r, hr⟩ := hrun.exists_job_iff.1 ⟨t, hi⟩
    obtain ⟨t', ht', hres⟩ := resolving_result hsafe hnobody halone hr
    obtain rfl : t = t' := Option.some.inj (hi.symm.trans ht')
    exact (Situation.duty_known (hres hf)).1
  · obtain ⟨⟨r, hr, rfl, f, hf, rfl⟩, hunknown, hunregistered⟩ := hw
    obtain ⟨i, hi, rfl⟩ := List.getElem_of_mem hr
    obtain ⟨t, ht, hres⟩ := resolving_result hsafe hnobody halone (List.getElem?_eq_getElem hi)
    have hknown := (Situation.duty_known (hres (hall t (List.mem_of_getElem? ht)))).2 f hf
    rcases hinv.known _ _ hknown with h | h | hne
    · exact absurd h hunknown
    · exact absurd h hunregistered
    · have := hinv.once rs[i].container f.id
      omega

namespace Pool

/-- Lets a thread that is about to begin fetch its lock, and holds it up before it takes it. -/
def hold? (p : Pool σ) (id : ThreadId) : Option (Pool σ) := do
  let job ← p.jobs[id.job]?
  match job.threads[id.thread]? with
  | some (.ready (.step (.fetchLock key) next)) =>
    let fetched := (p.world.locks job.place.site).fetch key
    match next fetched.1 with
    | .step (.acquire l) rest =>
      let world := p.world.setLocks job.place.site fetched.2
      some (p.after id ⟨.asleep 0 (.step (.acquire l) rest), world, []⟩)
    | _ => none
  | _ => none

theorem Run.hold {catalog : Catalog σ} {others : World σ → World σ → Prop} {p₀ p p' : Pool σ}
    {n : Nat} {ds : Chronicle} {id : ThreadId} (hrun : Run catalog others p₀ n ds p)
    (h : p.hold? id = some p') : Run catalog others p₀ (n + 1) ds p' := by
  obtain ⟨t, ht, h⟩ := Option.bind_eq_some_iff.1 h
  split at h
  · rename_i key next hx
    dsimp only at h
    split at h
    · rename_i l rest hnext
      obtain rfl := Option.some.inj h
      have hheld : (Flow.step (.fetchLock key) next).Advances catalog 0 t.place id p.world [] _ :=
        .heldUp (.fetchLock key) hnext
      simpa [mark, Thread.received] using hrun.goes (.on ht hx rfl hheld)
    · cases h
  · cases h

end Pool

/-- Two resolves list the collection before either creates the function. Both fetch the lock and are
held up before they take it; the second then takes it and creates the function. -/
theorem held_up_resolves_create_once : ∃ n ds p,
    Pool.Run Memory.catalog.recorded (fun _ _ => False)
        (resolving { catalog := (slowMemory, []) } [.lone 0, .lone 0]) n ds p ∧
      (∀ t ∈ p.jobs, t.isFinished = true) ∧
      creates p.world.catalog.2 (.collection "c") "f" = 1 ∧ (p.world.locks 0).serving = [] := by
  have hend : (((resolving { catalog := (slowMemory, []) } [.lone 0, .lone 0]).replay
      Memory.catalog.recorded [] [⟨0, 0⟩, ⟨1, 0⟩, ⟨0, 0⟩, ⟨1, 0⟩]).bind fun (ds, p) =>
      (p.hold? ⟨0, 1⟩).bind fun p => (p.hold? ⟨1, 1⟩).bind fun p =>
      p.replay Memory.catalog.recorded ds [⟨1, 1⟩, ⟨0, 1⟩, ⟨1, 1⟩, ⟨0, 1⟩]).any
      (fun (_, p) => p.jobs.all Job.isFinished) = true := by decide +kernel
  obtain ⟨⟨ds', p⟩, hp, hall⟩ := (Option.any_eq_true _ _).1 hend
  obtain ⟨⟨ds, p₁⟩, hlisted, hp⟩ := Option.bind_eq_some_iff.1 hp
  obtain ⟨p₂, hfirst, hp⟩ := Option.bind_eq_some_iff.1 hp
  obtain ⟨p₃, hsecond, hp⟩ := Option.bind_eq_some_iff.1 hp
  have hfinished : ∀ t ∈ p.jobs, t.isFinished = true := by simpa using hall
  have hrun : Pool.Run Memory.catalog.recorded (fun _ _ => False)
      (resolving { catalog := (slowMemory, []) } [.lone 0, .lone 0]) _ ds' p :=
    (((Pool.Run.start.replay hlisted).hold hfirst).hold hsecond).replay hp
  have hlone : ∀ r ∈ [Resolve.lone 0, .lone 0], r = .lone 0 := by simp
  have hplace : ∀ r ∈ [Resolve.lone 0, .lone 0], r.place = ⟨0, 0⟩ := fun r hr => hlone r hr ▸ rfl
  have honce := (resolves_create_once Memory.catalog_atomic rfl (fun _ => rfl) hplace
    (fun r hr => ⟨[], hlone r hr ▸ rfl⟩) hrun).2.2
  refine ⟨_, ds', p, hrun, hfinished, honce.complete hfinished _ _ ⟨?_, ?_, ?_⟩,
    honce.unlocked hfinished⟩
  · exact ⟨.lone 0, by simp, rfl, _, List.mem_singleton.2 rfl, rfl⟩
  · exact Bool.false_ne_true
  · rintro ⟨r, hr, -⟩
    have hr' : r ∈ slowMemory.functions "c" := hr
    simp [slowMemory, Memory.functions_ofLinks] at hr'

end DocQuery.Provision
