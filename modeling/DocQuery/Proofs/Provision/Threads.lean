import DocQuery.Proofs.Provision.Jobs
import DocQuery.Proofs.Provision.Locks
import DocQuery.Proofs.Provision.Steps

/-! # Threads under a contract

A thread that waits is safe if it can go on from every state that the others may leave. Letting a
safe thread go on until it waits again keeps the locks in order, is seen by every other thread as
something that it has to reckon with, and leaves the thread safe. Threads that are handed a lock on
the way find its key at rest.
-/

namespace DocQuery.Provision

open Catalog (Effect Reply Request)

variable {σ α : Type} {C : Contract σ} {catalog : Catalog σ} {place : Place}

/-- The end of a thread that keeps a contract: it uses no lock, and what it promises lasts. -/
def Ends (C : Contract σ) (Q : α → Data σ → Prop) (s : Stance) (a : α) (d : Data σ) : Prop :=
  s = .idle ∧ C.inv d ∧ ∀ d', C.Rely none d d' → Q a d'

namespace Flow

def Resumable (C : Contract σ) (catalog : Catalog σ) (place : Place) (Q : α → Data σ → Prop)
    (p : Flow α) (s : Stance) (d : Data σ) : Prop :=
  s.Settled ∧ ∀ d', C.Rely (s.held place) d d' → C.inv d' →
    p.Safe C catalog place (Ends C Q) s d'

end Flow

namespace Pause

def Safe (C : Contract σ) (catalog : Catalog σ) (place : Place) (Q : α → Data σ → Prop)
    (s : Stance) : Pause σ α → Data σ → Prop
  | .ended a, d => s = .idle ∧ ∀ d', C.Rely none d d' → Q a d'
  | .asleep _ p, d => p.Resumable C catalog place Q s d
  | .awaiting _ _ finish next, d =>
    s.Settled ∧ ∀ d', C.Rely (s.held place) d d' → C.inv d' →
      C.change (s.held place) d' (d'.absorb (finish d'.catalog)) ∧
        (next (finish d'.catalog).value).Safe C catalog place (Ends C Q) s
          (d'.absorb (finish d'.catalog))
  | .queued l p, d =>
    ∃ key, s = .waiting key l ∧ ∀ d', C.Rely none d d' → C.inv d' →
      C.atRest (place.site, key) d' → p.Safe C catalog place (Ends C Q) (.holder key l) d'

end Pause

namespace Thread

def Safe (C : Contract σ) (catalog : Catalog σ) (place : Place) (Q : Outcome → Data σ → Prop)
    (s : Stance) : Thread σ → Data σ → Prop
  | .ready p, d => p.Resumable C catalog place Q s d
  | .paused x, d => x.Safe C catalog place Q s d

variable {Q : Outcome → Data σ → Prop} {s : Stance} {t : Thread σ} {d d' : Data σ}

theorem Safe.rely (h : t.Safe C catalog place Q s d) (hr : C.Rely (s.held place) d d') :
    t.Safe C catalog place Q s d' := by
  match t with
  | .ready p => exact ⟨h.1, fun d'' hr' => h.2 d'' (hr.trans hr')⟩
  | .paused (.asleep ms p) => exact ⟨h.1, fun d'' hr' => h.2 d'' (hr.trans hr')⟩
  | .paused (.awaiting ms r finish next) => exact ⟨h.1, fun d'' hr' => h.2 d'' (hr.trans hr')⟩
  | .paused (.queued l p) =>
      obtain ⟨key, rfl, hn⟩ := h
      exact ⟨key, rfl, fun d'' hr' => hn d'' (hr.trans hr')⟩
  | .paused (.ended o) =>
      obtain ⟨rfl, hn⟩ := h
      exact ⟨rfl, fun d'' hr' => hn d'' (hr.trans hr')⟩

/-- A thread that was handed the lock that it waits for finds the key at rest. -/
theorem Safe.grant {key : LockKey} {l : LockId}
    (h : t.Safe C catalog place Q (.waiting key l) d) (hr : C.Rely none d d')
    (ha : C.atRest (place.site, key) d') : t.grant.Safe C catalog place Q (.holder key l) d' := by
  match t with
  | .ready p => exact h.1.elim
  | .paused (.asleep ms p) => exact h.1.elim
  | .paused (.awaiting ms r finish next) => exact h.1.elim
  | .paused (.ended o) => cases h.1
  | .paused (.queued l' p) =>
      obtain ⟨key', hs, hn⟩ := h
      obtain ⟨rfl, rfl⟩ : key = key' ∧ l = l' := by simpa using hs
      exact ⟨trivial, fun d'' hr' hi => hn d'' (hr.trans hr'.weaken) hi (hr'.atRest ha)⟩

/-- A thread that wakes goes on safely; taking up an answer of the catalog is a change that the
contract allows. -/
theorem Safe.wake {w w' : World σ} {p : Flow Outcome}
    (h : t.Safe C catalog place Q s w.toData) (hi : C.inv w.toData)
    (hw : t.wake? w = some (p, w')) :
    w'.locks = w.locks ∧ (w'.toData = w.toData ∨ C.change (s.held place) w.toData w'.toData) ∧
      p.Safe C catalog place (Ends C Q) s w'.toData := by
  rcases wake?_eq_some hw with ⟨rfl, rfl⟩ | ⟨ms, rfl, rfl⟩ | ⟨ms, r, finish, next, rfl, rfl, rfl⟩
  · exact ⟨rfl, Or.inl rfl, h.2 _ .refl hi⟩
  · exact ⟨rfl, Or.inl rfl, h.2 _ .refl hi⟩
  · obtain ⟨hc, hs⟩ := h.2 _ .refl hi
    exact ⟨rfl, Or.inr hc, hs⟩

end Thread

/-! ## Stances and locks of all threads -/

/-- The stances of the threads of one provisioner; to it all others are idle. -/
def atSite (places : ThreadId → Place) (stance : ThreadId → Stance) (i : Nat) :
    ThreadId → Stance :=
  fun id => if (places id).site = i then stance id else .idle

/-- The locks of all provisioners agree with the stances of the threads, and every key whose lock
nobody holds is at rest. -/
structure Orderly (C : Contract σ) (places : ThreadId → Place) (stance : ThreadId → Stance)
    (w : World σ) : Prop where
  locks : ∀ i, (w.locks i).InOrder (atSite places stance i)
  atRest : ∀ i key, (∀ id l, (places id).site = i → stance id ≠ .holder key l) →
    C.atRest (i, key) w.toData

namespace Orderly

variable {places : ThreadId → Place} {stance : ThreadId → Stance} {w : World σ}

/-- Two threads that hold the lock of one key at one provisioner are the same. -/
theorem exclusive (h : Orderly C places stance w) {id id' : ThreadId} {key : LockKey}
    {l l' : LockId} (hs : stance id = .holder key l) (hs' : stance id' = .holder key l')
    (hp : (places id).site = (places id').site) : id = id' := by
  have hi : atSite places stance (places id').site id = .holder key l := by simp [atSite, hp, hs]
  have hi' : atSite places stance (places id').site id' = .holder key l' := by simp [atSite, hs']
  exact (h.locks (places id').site).exclusive hi hi'

/-- What a thread changes is something that every other thread has to reckon with. -/
theorem rely (h : Orderly C places stance w) {id id' : ThreadId} (hne : id' ≠ id)
    {d d' : Data σ} (hc : C.change ((stance id).held (places id)) d d') :
    C.Rely ((stance id').held (places id')) d d' := by
  refine Contract.Rely.single ?_ hc
  cases hs' : stance id' with
  | idle => exact Or.inl rfl
  | user key l => exact Or.inl rfl
  | waiting key l => exact Or.inl rfl
  | holder key l =>
      refine Or.inr fun he => hne ?_
      cases hs : stance id with
      | holder key' l' =>
          obtain ⟨hp, rfl⟩ : (places id).site = (places id').site ∧ key' = key := by
            simpa [hs] using he
          exact h.exclusive hs' hs hp.symm
      | idle => simp [hs] at he
      | user key' l' => simp [hs] at he
      | waiting key' l' => simp [hs] at he

theorem change (h : Orderly C places stance w) {id : ThreadId} {d : Data σ}
    (hc : C.change ((stance id).held (places id)) w.toData d) :
    Orderly C places stance { w with toData := d } := by
  refine ⟨h.locks, fun i key hn => C.atRest_change hc ?_ (h.atRest i key hn)⟩
  intro he
  cases hs : stance id with
  | holder key' l =>
      obtain ⟨hp, rfl⟩ : (places id).site = i ∧ key' = key := by simpa [hs] using he
      exact hn id l hp hs
  | idle => simp [hs] at he
  | user key' l => simp [hs] at he
  | waiting key' l => simp [hs] at he

/-- Threads of one provisioner change their stances together with its table. A key whose lock is
given up has to be at rest. -/
theorem setLocks (h : Orderly C places stance w) {stance' : ThreadId → Stance} {i : Nat}
    {t : LockTable} (ht : t.InOrder (atSite places stance' i))
    (hs : ∀ id, (places id).site ≠ i → stance' id = stance id)
    (hr : ∀ id key l, (places id).site = i → stance id = .holder key l →
      stance' id ≠ .holder key l → C.atRest (i, key) w.toData) :
    Orderly C places stance' (w.setLocks i t) := by
  constructor
  · intro j
    by_cases hj : j = i
    · subst hj
      simpa [World.setLocks] using ht
    · have hst : atSite places stance' j = atSite places stance j := by
        funext id
        simp only [atSite]
        grind
      simpa [World.setLocks, hj, hst] using h.locks j
  · intro j key hn
    show C.atRest (j, key) w.toData
    by_cases hh : ∃ id l, (places id).site = j ∧ stance id = .holder key l
    · obtain ⟨id, l, hp, hl⟩ := hh
      by_cases hj : j = i
      · subst hj
        exact hr id key l hp hl (hn id l hp)
      · exact absurd ((hs id fun he => hj (hp.symm.trans he)).trans hl) (hn id l hp)
    · exact h.atRest j key fun id l hp hl => hh ⟨id, l, hp, hl⟩

theorem atSite_setStance (id : ThreadId) (s : Stance) :
    atSite places (Provision.setStance stance id s) (places id).site =
      Provision.setStance (atSite places stance (places id).site) id s := by
  funext id'
  simp only [atSite, setStance_apply]
  grind

theorem setStance (h : Orderly C places stance w) {id : ThreadId} {s : Stance} {t : LockTable}
    (ht : t.InOrder (Provision.setStance (atSite places stance (places id).site) id s))
    (hr : ∀ key l, stance id = .holder key l → C.atRest ((places id).site, key) w.toData) :
    Orderly C places (Provision.setStance stance id s) (w.setLocks (places id).site t) := by
  refine h.setLocks (by rwa [atSite_setStance]) ?_ ?_
  · intro id' hp
    have hne : id' ≠ id := fun he => hp (he ▸ rfl)
    simp [hne]
  · intro id' key l _ hl hl'
    have he : id' = id := by grind
    exact hr key l (he ▸ hl)

end Orderly

/-- What the others see when a thread goes on: those that were handed a lock hold it from then on
and find its key at rest; for all others only the data have changed. -/
structure Handover (C : Contract σ) (places : ThreadId → Place) (id : ThreadId)
    (stance stance' : ThreadId → Stance) (d d' : Data σ) (woken : List ThreadId) : Prop where
  others : ∀ id', id' ≠ id → id' ∉ woken →
    stance' id' = stance id' ∧ C.Rely ((stance id').held (places id')) d d'
  woken : ∀ id' ∈ woken, id' ≠ id ∧ C.Rely none d d' ∧ ∃ key l,
    stance id' = .waiting key l ∧ stance' id' = .holder key l ∧
      C.atRest ((places id').site, key) d'

namespace Handover

variable {places : ThreadId → Place} {id : ThreadId} {stance stance' stance'' : ThreadId → Stance}
  {d d' d'' : Data σ} {woken woken' : List ThreadId}

theorem refl : Handover C places id stance stance d d [] where
  others := fun _ _ _ => ⟨rfl, .refl⟩
  woken := by simp

theorem trans (h : Handover C places id stance stance' d d' woken)
    (h' : Handover C places id stance' stance'' d' d'' woken') :
    Handover C places id stance stance'' d d'' (woken ++ woken') where
  others := by
    intro id' hne hw
    obtain ⟨hs, hr⟩ := h.others id' hne fun hm => hw (by simp [hm])
    obtain ⟨hs', hr'⟩ := h'.others id' hne fun hm => hw (by simp [hm])
    rw [hs] at hr'
    exact ⟨hs'.trans hs, hr.trans hr'⟩
  woken := by
    intro id' hm
    rcases List.mem_append.1 hm with hm | hm
    · -- Handed a lock in the first part, the thread holds it through the second.
      obtain ⟨hne, hr, key, l, hs, hs', ha⟩ := h.woken id' hm
      have hw' : id' ∉ woken' := fun hm' => by
        obtain ⟨-, -, key', l', hs'', -⟩ := h'.woken id' hm'
        rw [hs'] at hs''
        cases hs''
      obtain ⟨hs'', hr'⟩ := h'.others id' hne hw'
      rw [hs', Stance.held_holder] at hr'
      exact ⟨hne, hr.trans hr'.weaken, key, l, hs, hs''.trans hs', hr'.atRest ha⟩
    · obtain ⟨hne, hr', key, l, hs', hs'', ha⟩ := h'.woken id' hm
      have hw : id' ∉ woken := fun hm' => by
        obtain ⟨-, -, key', l', -, hs, -⟩ := h.woken id' hm'
        rw [hs] at hs'
        cases hs'
      obtain ⟨hs, hr⟩ := h.others id' hne hw
      rw [hs] at hs'
      rw [hs', Stance.held_waiting] at hr
      exact ⟨hne, hr.trans hr', key, l, hs', hs'', ha⟩

theorem of_change {w : World σ} (ho : Orderly C places stance w)
    (hc : C.change ((stance id).held (places id)) d d') :
    Handover C places id stance stance d d' [] where
  others := fun _ hne _ => ⟨rfl, ho.rely hne hc⟩
  woken := by simp

theorem of_setStance (s : Stance) : Handover C places id stance (setStance stance id s) d d [] where
  others := fun id' hne _ => ⟨by simp [hne], .refl⟩
  woken := by simp

end Handover

/-! ## Going on until the next wait -/

/-- What holds when a thread has gone on: order is kept, the invariant holds again, the thread is
safe where it waits, and the others are served. -/
structure Advanced (C : Contract σ) (catalog : Catalog σ) (places : ThreadId → Place)
    (id : ThreadId) (Q : α → Data σ → Prop) (stance stance' : ThreadId → Stance) (d : Data σ)
    (p : Progress σ α) : Prop where
  orderly : Orderly C places stance' p.world
  inv : C.inv p.world.toData
  safe : p.pause.Safe C catalog (places id) Q (stance' id) p.world.toData
  handover : Handover C places id stance stance' d p.world.toData p.woken

namespace Advanced

variable {places : ThreadId → Place} {id : ThreadId} {stance stance' stance'' : ThreadId → Stance}
  {Q : α → Data σ → Prop} {d d' : Data σ} {woken : List ThreadId} {p : Progress σ α}

theorem after (h : Handover C places id stance stance' d d' woken)
    (h' : Advanced C catalog places id Q stance' stance'' d' p) :
    Advanced C catalog places id Q stance stance'' d { p with woken := woken ++ p.woken } :=
  ⟨h'.orderly, h'.inv, h'.safe, h.trans h'.handover⟩

end Advanced

section

variable {places : ThreadId → Place} {id : ThreadId} {Q : α → Data σ → Prop}

theorem advance_release {stance : ThreadId → Stance} {w : World σ} {key : LockKey} {l : LockId}
    (ho : Orderly C places stance w) (hs : stance id = .holder key l)
    (ha : C.atRest ((places id).site, key) w.toData) :
    ∃ stance', stance' id = .user key l ∧
      Orderly C places stance'
        (w.setLocks (places id).site ((w.locks (places id).site).release l).2) ∧
      Handover C places id stance stance' w.toData w.toData
        ((w.locks (places id).site).release l).1.toList := by
  have ht := ho.locks (places id).site
  have hs' : atSite places stance (places id).site id = .holder key l := by simp [atSite, hs]
  have hr : ∀ key' l', stance id = .holder key' l' →
      C.atRest ((places id).site, key') w.toData := fun key' l' h' => by
    obtain ⟨rfl, rfl⟩ : key = key' ∧ l = l' := by simpa [hs] using h'
    exact ha
  cases hw : ((w.locks (places id).site).locks l).waiting with
  | nil =>
      simp only [LockTable.release, hw, Option.toList_none]
      have ht' := ht.release_free hs' hw
      simp only [hw] at ht'
      exact ⟨setStance stance id (.user key l), by simp, ho.setStance ht' hr, .of_setStance _⟩
  | cons next rest =>
      simp only [LockTable.release, hw, Option.toList_some]
      obtain ⟨hn, hne, ht'⟩ := ht.release_handed hs' hw
      have hp : (places next).site = (places id).site := by
        by_cases hp : (places next).site = (places id).site
        · exact hp
        · simp [atSite, hp] at hn
      have hn' : stance next = .waiting key l := by simpa [atSite, hp] using hn
      refine ⟨setStance (setStance stance id (.user key l)) next (.holder key l), ?_, ?_, ?_, ?_⟩
      · simp [Ne.symm hne]
      · refine ho.setLocks ?_ ?_ ?_
        · rwa [← hp, Orderly.atSite_setStance, hp, Orderly.atSite_setStance]
        · intro id' hp'
          have h₁ : id' ≠ id := fun he => hp' (he ▸ rfl)
          have h₂ : id' ≠ next := fun he => hp' (he ▸ hp)
          simp [h₁, h₂]
        · intro id' key' l' _ hl hl'
          have he : id' = id := by grind
          exact hr key' l' (he ▸ hl)
      · intro id' h₁ h₂
        exact ⟨by simp [h₁, mt List.mem_singleton.2 h₂], .refl⟩
      · intro id' hm
        obtain rfl : id' = next := List.mem_singleton.1 hm
        exact ⟨hne, .refl, key, l, hn', by simp, hp ▸ ha⟩

/-- A safe flow whose command is answered at once goes on safely, and everything stays in order. -/
theorem performs_safe {now : Nat} {c : Command} {next : c.Answer → Flow α} {a : c.Answer}
    {stance : ThreadId → Stance} {w w' : World σ} {woken : List ThreadId}
    (hc : c.Performs catalog now (places id) id w a w' woken) (ho : Orderly C places stance w)
    (hp : (Flow.step c next).Safe C catalog (places id) (Ends C Q) (stance id) w.toData) :
    ∃ stance', Orderly C places stance' w' ∧
      (next a).Safe C catalog (places id) (Ends C Q) (stance' id) w'.toData ∧
      Handover C places id stance stance' w.toData w'.toData woken := by
  cases hc with
  | readCache => exact ⟨stance, ho, hp, .refl⟩
  | catalogName => exact ⟨stance, ho, hp, .refl⟩
  | changeCache x => exact ⟨stance, ho.change hp.1, hp.2, .of_change ho hp.1⟩
  | count x => exact ⟨stance, ho.change hp.1, hp.2, .of_change ho hp.1⟩
  | report e => exact ⟨stance, ho.change hp.1, hp.2, .of_change ho hp.1⟩
  | request hv =>
      obtain ⟨hchange, hnext⟩ := hp.2 now
      simp only [hv] at hnext
      exact ⟨stance, ho.change hchange, hnext, .of_change ho hchange⟩
  | sleep => exact ⟨stance, ho, hp.2.2 _ .refl hp.2.1, .refl⟩
  | fetchLock key =>
      obtain ⟨hs, hnext⟩ := hp
      have hs' : atSite places stance (places id).site id = .idle := by simp [atSite, hs]
      have ho' := ho.setStance ((ho.locks _).fetch hs' key) (by simp [hs])
      exact ⟨_, ho', by simpa [World.setLocks] using hnext _, .of_setStance _⟩
  | discard key l =>
      obtain ⟨hs, hnext⟩ := hp
      have hs' : atSite places stance (places id).site id = .user key l := by simp [atSite, hs]
      have ho' := ho.setStance ((ho.locks _).discard hs') (by simp [hs])
      exact ⟨_, ho', by simpa [World.setLocks] using hnext, .of_setStance _⟩
  | @acquire l hfree =>
      obtain ⟨key, hs, hi, hnext⟩ := hp
      have ht := ho.locks (places id).site
      have hs' : atSite places stance (places id).site id = .user key l := by simp [atSite, hs]
      have hh : ((w.locks (places id).site).locks l).holder = none := by
        simpa [LockTable.acquire_fst] using hfree
      have ha : C.atRest ((places id).site, key) w.toData :=
        ho.atRest _ _ fun id' l' hp' hl => ht.unheld hs' hh id' l' (by simp [atSite, hp', hl])
      have ho' := ho.setStance (ht.acquire_free hs' hh) (by simp [hs])
      exact ⟨_, ho', by simpa [World.setLocks] using hnext _ .refl hi ha, .of_setStance _⟩
  | release l =>
      obtain ⟨key, hs, ha, hnext⟩ := hp
      obtain ⟨stance', hu, ho', hh⟩ := advance_release ho hs ha
      exact ⟨stance', ho', hu ▸ hnext, hh⟩

/-- However a safe flow goes on until it waits, it leaves everything in order. -/
theorem Flow.Advances.safe {now : Nat} {p : Flow α} {stance : ThreadId → Stance} {w : World σ}
    {ds : List Deed} {q : Progress σ α} (h : p.Advances catalog now (places id) id w ds q)
    (ho : Orderly C places stance w)
    (hp : p.Safe C catalog (places id) (Ends C Q) (stance id) w.toData) :
    ∃ stance', Advanced C catalog places id Q stance stance' w.toData q := by
  induction h generalizing stance with
  | ended a w => exact ⟨stance, ho, hp.2.1, ⟨hp.1, hp.2.2⟩, .refl⟩
  | asleep next w => exact ⟨stance, ho, hp.2.1, ⟨hp.1, hp.2.2⟩, .refl⟩
  | awaiting next hv =>
      obtain ⟨hchange, hnext⟩ := hp.2 now
      simp only [hv] at hnext
      exact ⟨stance, ho.change hchange, hnext.1, ⟨hp.1, hnext.2⟩, .of_change ho hchange⟩
  | @queued l next w htaken =>
      obtain ⟨key, hs, hi, hnext⟩ := hp
      have hs' : atSite places stance (places id).site id = .user key l := by simp [atSite, hs]
      have hh : ((w.locks (places id).site).locks l).holder ≠ none := fun hn => by
        simp [LockTable.acquire_fst, hn] at htaken
      have ho' := ho.setStance ((ho.locks _).acquire_taken hs' hh) (by simp [hs])
      exact ⟨_, ho', hi, ⟨key, by simp, hnext⟩, .of_setStance _⟩
  | heldUp hc hlock =>
      obtain ⟨stance', ho', hnext, hh⟩ := performs_safe hc ho hp
      rw [hlock] at hnext
      have hsettled : (stance' id).Settled := by
        obtain ⟨key, hs, -⟩ := hnext
        simp [hs]
      have hinv := hnext.choose_spec.2.1
      exact ⟨stance', ho', hinv, ⟨hsettled, fun d' => hnext.heldUp⟩, hh⟩
  | step hc _ ih =>
      obtain ⟨stance', ho', hnext, hh⟩ := performs_safe hc ho hp
      obtain ⟨stance'', hrest⟩ := ih ho' hnext
      exact ⟨stance'', .after hh hrest⟩

end
end DocQuery.Provision
