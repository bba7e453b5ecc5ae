import DocQuery.Proofs.Provision.Deeds
import DocQuery.Proofs.Provision.Runs
import Mathlib.Algebra.Order.BigOperators.Group.Finset

/-! # Counting what is done

What several threads do is kept in one list, in the order in which it is done. A number of deeds
that depends only on what the same thread does later is the sum of its numbers for each thread, so
that an account that balances for each thread balances as a whole.
-/

namespace DocQuery.Provision

open Catalog (Request)

def tally (P : ThreadId × Deed → Chronicle → Bool) : Chronicle → Nat
  | [] => 0
  | x :: later => tally P later + if P x later then 1 else 0

def resends (id : ThreadId) (r : Request) (ds : Chronicle) : Bool :=
  ds.any fun x => x.1 = id && x.2.sends r

/-- How many errors of the catalog were followed by another try. -/
def followedUp (ds : Chronicle) : Nat :=
  tally (fun x later => x.2.error?.any fun y => resends x.1 y.1 later) ds

/-- How many errors allowed another try that was not made. -/
def givenUp (ds : Chronicle) : Nat :=
  tally (fun x later => x.2.error?.any fun y => y.2.isTransient && !resends x.1 y.1 later) ds

def total (P : Deed → Bool) (ds : Chronicle) : Nat := ds.countP fun x => P x.2

theorem total_eq_tally (P : Deed → Bool) (ds : Chronicle) :
    total P ds = tally (fun x _ => P x.2) ds := by
  induction ds with
  | nil => rfl
  | cons x ds ih => rw [tally, ← ih, total, List.countP_cons]; rfl

theorem total_append (P : Deed → Bool) (ds ds' : Chronicle) :
    total P (ds ++ ds') = total P ds + total P ds' := List.countP_append

theorem resends_ofThread (id : ThreadId) (r : Request) (ds : Chronicle) :
    resends id r (ofThread id ds) = resends id r ds := by
  simp only [resends, ofThread, List.any_filter]
  refine congrArg _ (funext fun x => ?_)
  cases decide (x.1 = id) <;> rfl

/-! ## Numbers by thread -/

def ByThread (F : Chronicle → Nat) : Prop :=
  ∀ ds (S : Finset ThreadId), (∀ x ∈ ds, x.1 ∈ S) → F ds = ∑ id ∈ S, F (ofThread id ds)

theorem byThread_tally {P : ThreadId × Deed → Chronicle → Bool}
    (hP : ∀ x later, P x (ofThread x.1 later) = P x later) : ByThread (tally P) := by
  intro ds S
  induction ds with
  | nil => exact fun _ => (Finset.sum_eq_zero fun _ _ => rfl).symm
  | cons x ds ih =>
      intro hS
      obtain ⟨hx, hS⟩ := List.forall_mem_cons.1 hS
      have hself : tally P (ofThread x.1 (x :: ds)) =
          tally P (ofThread x.1 ds) + if P x ds then 1 else 0 := by
        simp [ofThread, tally, ← hP x ds]
      have hothers : ∑ id ∈ S.erase x.1, tally P (ofThread id (x :: ds)) =
          ∑ id ∈ S.erase x.1, tally P (ofThread id ds) := by
        refine Finset.sum_congr rfl fun id hid => ?_
        have hne : x.1 ≠ id := (Finset.ne_of_mem_erase hid).symm
        simp [ofThread, hne]
      have hsum := ih hS
      rw [← Finset.add_sum_erase S _ hx] at hsum ⊢
      rw [hself, hothers, tally]
      omega

theorem byThread_followedUp : ByThread followedUp :=
  byThread_tally fun x later => by simp only [resends_ofThread]

theorem byThread_givenUp : ByThread givenUp :=
  byThread_tally fun x later => by simp only [resends_ofThread]

theorem byThread_total (P : Deed → Bool) : ByThread (total P) := by
  intro ds S hS
  simp only [total_eq_tally]
  exact byThread_tally (fun _ _ => rfl) ds S hS

namespace ByThread

variable {F G : Chronicle → Nat}

theorem add (hF : ByThread F) (hG : ByThread G) : ByThread fun ds => F ds + G ds := by
  intro ds S hS
  show F ds + G ds = _
  rw [hF ds S hS, hG ds S hS, Finset.sum_add_distrib]

theorem le (hF : ByThread F) (hG : ByThread G) {ds : Chronicle}
    (h : ∀ id, F (ofThread id ds) ≤ G (ofThread id ds)) : F ds ≤ G ds := by
  have hS : ∀ x ∈ ds, x.1 ∈ (ds.map Prod.fst).toFinset := fun x hx =>
    List.mem_toFinset.2 (List.mem_map_of_mem hx)
  rw [hF ds _ hS, hG ds _ hS]
  exact Finset.sum_le_sum fun id _ => h id

theorem eq (hF : ByThread F) (hG : ByThread G) {ds : Chronicle}
    (h : ∀ id, F (ofThread id ds) = G (ofThread id ds)) : F ds = G ds :=
  Nat.le_antisymm (hF.le hG fun id => (h id).le) (hG.le hF fun id => (h id).ge)

end ByThread

/-! ## Parts that do not get in each other's way -/

def Deed.request? : Deed → Option Request
  | .sent r => some r
  | .heard x => some x.request
  | .counted _ => none
  | .reported _ => none

theorem Deed.request?_of_sends {d : Deed} {r : Request} (h : d.sends r = true) :
    d.request? = some r := by
  cases d <;> simp_all [sends, request?]

theorem Deed.request?_of_error? {d : Deed} {x : Request × Catalog.Error}
    (h : d.error? = some x) : d.request? = some x.1 := by
  cases d with
  | heard y =>
      obtain ⟨e, -, rfl⟩ := Option.map_eq_some_iff.1 h
      rfl
  | sent r => simp [error?] at h
  | counted c => simp [error?] at h
  | reported e => simp [error?] at h

def Apart (ds ds' : List Deed) : Prop :=
  ∀ d ∈ ds, ∀ d' ∈ ds', ∀ r, d.request? = some r → d'.request? ≠ some r

theorem resends_mark (id : ThreadId) (r : Request) (ds : List Deed) :
    resends id r (mark id ds) = ds.any (Deed.sends r) := by
  simp [resends, mark, List.any_map, Function.comp_def]

theorem total_mark (P : Deed → Bool) (id : ThreadId) (ds : List Deed) :
    total P (mark id ds) = ds.countP P := by
  simp [total, mark, List.countP_map, Function.comp_def]

theorem tally_append {P : ThreadId × Deed → Chronicle → Bool} {ds ds' : Chronicle}
    (h : ∀ x ∈ ds, ∀ later, P x (later ++ ds') = P x later) :
    tally P (ds ++ ds') = tally P ds + tally P ds' := by
  induction ds with
  | nil => simp [tally]
  | cons x ds ih =>
      obtain ⟨hx, h⟩ := List.forall_mem_cons.1 h
      rw [List.cons_append, tally, ih h, hx, tally]
      omega

theorem resends_append {ds ds' : List Deed} (h : Apart ds ds') {id : ThreadId} {d : Deed}
    (hd : d ∈ ds) {x : Request × Catalog.Error} (hx : d.error? = some x) (later : Chronicle) :
    resends id x.1 (later ++ mark id ds') = resends id x.1 later := by
  have hnone : resends id x.1 (mark id ds') = false := by
    rw [resends_mark, List.any_eq_false]
    intro d' hd' hs
    exact h d hd d' hd' x.1 (Deed.request?_of_error? hx) (Deed.request?_of_sends hs)
  rw [resends, List.any_append, ← resends, ← resends, hnone, Bool.or_false]

theorem followedUp_append {ds ds' : List Deed} (h : Apart ds ds') (id : ThreadId) :
    followedUp (mark id (ds ++ ds')) = followedUp (mark id ds) + followedUp (mark id ds') := by
  rw [mark, List.map_append]
  refine tally_append fun x hx later => ?_
  obtain ⟨d, hd, rfl⟩ := List.mem_map.1 hx
  cases he : d.error? with
  | none => rfl
  | some y => exact resends_append h hd he later

theorem givenUp_append {ds ds' : List Deed} (h : Apart ds ds') (id : ThreadId) :
    givenUp (mark id (ds ++ ds')) = givenUp (mark id ds) + givenUp (mark id ds') := by
  rw [mark, List.map_append]
  refine tally_append fun x hx later => ?_
  obtain ⟨d, hd, rfl⟩ := List.mem_map.1 hx
  cases he : d.error? with
  | none => rfl
  | some y =>
      have hs : resends id y.1 (later ++ mark id ds') = resends id y.1 later :=
        resends_append h hd he later
      exact congrArg (fun b => y.2.isTransient && !b) hs

@[simp] theorem followedUp_nil (id : ThreadId) : followedUp (mark id []) = 0 := rfl

@[simp] theorem givenUp_nil (id : ThreadId) : givenUp (mark id []) = 0 := rfl

theorem followedUp_cons (id : ThreadId) (d : Deed) (ds : List Deed) :
    followedUp (mark id (d :: ds)) = followedUp (mark id ds) +
      if d.error?.any fun y => ds.any (Deed.sends y.1) then 1 else 0 := by
  simp only [← resends_mark id]
  rfl

theorem givenUp_cons (id : ThreadId) (d : Deed) (ds : List Deed) :
    givenUp (mark id (d :: ds)) = givenUp (mark id ds) +
      if d.error?.any fun y => y.2.isTransient && !ds.any (Deed.sends y.1) then 1 else 0 := by
  simp only [← resends_mark id]
  rfl

end DocQuery.Provision
