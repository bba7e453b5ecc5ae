import DocQuery.Proofs.Provision.Deeds

/-! # What is heard from the catalog

Of what is done, only the answers that arrive depend on the catalog. A request is tried until there
is a definite answer, and all allowed tries are used up only if every one of them got none.
-/

namespace DocQuery.Provision

open Catalog (Reply Request)

def exchanges (ds : List Deed) : List Exchange := ds.filterMap Deed.heard?

theorem mem_exchanges {ds : List Deed} {x : Exchange} : x ∈ exchanges ds ↔ .heard x ∈ ds := by
  constructor
  · intro h
    obtain ⟨d, hd, hx⟩ := List.mem_filterMap.1 h
    cases d with
    | heard y => exact Option.some.inj hx ▸ hd
    | sent r => cases hx
    | counted c => cases hx
    | reported e => cases hx
  · exact fun h => List.mem_filterMap.2 ⟨_, h, rfl⟩

@[simp] theorem exchanges_append (ds ds' : List Deed) :
    exchanges (ds ++ ds') = exchanges ds ++ exchanges ds' := List.filterMap_append

@[simp] theorem exchanges_nil : exchanges [] = [] := rfl
@[simp] theorem exchanges_counted (c : Counter) (ds : List Deed) :
    exchanges (.counted c :: ds) = exchanges ds := rfl
@[simp] theorem exchanges_reported (e : Event) (ds : List Deed) :
    exchanges (.reported e :: ds) = exchanges ds := rfl

def Exchange.Lost (r : Request) (x : Exchange) : Prop :=
  ∃ e : Catalog.Error, x = ⟨r, .error e⟩ ∧ e.isTransient = true

/-- A request that was tried until a definite answer arrived, or as often as it may be. -/
structure Tried (attempts : Nat) (r : Request) (tries : List Exchange) (reply : Reply r) :
    Prop where
  lost : ∃ lost, tries = lost ++ [⟨r, reply⟩] ∧ ∀ x ∈ lost, x.Lost r
  length_le : tries.length ≤ attempts
  exhausted : ∀ e, reply = .error e → e.isTransient = true → tries.length = attempts

namespace Tried

variable {attempts : Nat} {r : Request} {tries : List Exchange} {reply : Reply r}

theorem single (h : ∀ e, reply = .error e → e.isTransient = true → attempts = 0) :
    Tried (attempts + 1) r [⟨r, reply⟩] reply where
  lost := ⟨[], rfl, by simp⟩
  length_le := by simp
  exhausted := by
    intro e he ht
    have hnone := h e he ht
    simp [hnone]

theorem cons (h : Tried attempts r tries reply) {x : Exchange} (hx : x.Lost r) :
    Tried (attempts + 1) r (x :: tries) reply where
  lost := by
    obtain ⟨lost, rfl, hlost⟩ := h.lost
    exact ⟨x :: lost, rfl, List.forall_mem_cons.2 ⟨hx, hlost⟩⟩
  length_le := by
    have hle := h.length_le
    simp only [List.length_cons]
    omega
  exhausted := by
    intro e he ht
    have hlen := h.exhausted e he ht
    simp only [List.length_cons]
    omega

/-- When the last answer is not definite either, every try got none. -/
theorem all_lost (h : Tried attempts r tries reply) {e : Catalog.Error} (he : reply = .error e)
    (ht : e.isTransient = true) : tries.length = attempts ∧ ∀ x ∈ tries, x.Lost r := by
  refine ⟨h.exhausted e he ht, ?_⟩
  obtain ⟨lost, rfl, hlost⟩ := h.lost
  intro x hx
  rcases List.mem_append.1 hx with hx | hx
  · exact hlost x hx
  · exact ⟨e, by rw [List.mem_singleton.1 hx, he], ht⟩

theorem request_eq (h : Tried attempts r tries reply) {x : Exchange} (hx : x ∈ tries) :
    x.request = r := by
  obtain ⟨lost, rfl, hlost⟩ := h.lost
  rcases List.mem_append.1 hx with hx | hx
  · obtain ⟨e, rfl, -⟩ := hlost x hx
    rfl
  · rw [List.mem_singleton.1 hx]

theorem eq_of_mem (h : Tried attempts r tries reply) {a : r.Result} (ha : ⟨r, .ok a⟩ ∈ tries) :
    reply = .ok a := by
  obtain ⟨lost, rfl, hlost⟩ := h.lost
  rcases List.mem_append.1 ha with ha | ha
  · obtain ⟨e, he, -⟩ := hlost _ ha
    cases he
  · cases List.mem_singleton.1 ha
    rfl

end Tried

theorem exchanges_tryDeeds (r : Request) (reply : Reply r) :
    exchanges (tryDeeds r reply) = [⟨r, reply⟩] := by
  cases r <;> rfl

theorem Persisted.tried {r : Request} {left : Nat} {ds : List Deed} {reply : Reply r}
    (h : Persisted r left ds reply) : Tried (left + 1) r (exchanges ds) reply := by
  induction h with
  | definite hdefinite =>
      rw [exchanges_tryDeeds]
      refine .single fun e he ht => ?_
      rw [hdefinite e he] at ht
      cases ht
  | exhausted _ =>
      rw [exchanges_append, exchanges_tryDeeds]
      exact .single fun _ _ _ => rfl
  | again operation n he _ ih =>
      rw [exchanges_append, exchanges_tryDeeds]
      exact ih.cons ⟨_, rfl, he⟩

theorem Persisted.tried_attempts {p : Provisioner} {r : Request} {ds : List Deed} {reply : Reply r}
    (h : Persisted r (p.attempts - 1) ds reply) : Tried p.attempts r (exchanges ds) reply := by
  have htried := h.tried
  rwa [Nat.sub_add_cancel p.attempts_pos] at htried

end DocQuery.Provision
