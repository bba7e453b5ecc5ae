import DocQuery.Proofs.Provision.Tallies

/-! # The accounts of a part

In each part of an operation every try is accounted for. Lists and creates are counted when they
are sent, and an error that allows another try is counted whether or not there is another try. What
is created and what is found to exist is counted as the answers say, and a part counts a failure
just if it ends with an error.
-/

namespace DocQuery.Provision

open Catalog (Kind Reply Request)

/-! ## Tries are accounted for -/

theorem append_eq_split {α : Type} {as bs earlier later : List α} {a : α}
    (h : as ++ bs = earlier ++ a :: later) :
    (∃ mid, as = earlier ++ a :: mid ∧ later = mid ++ bs) ∨ ∃ mid, bs = mid ++ a :: later := by
  rcases List.append_eq_append_iff.1 h with ⟨mid, -, hmid⟩ | ⟨mid, hmid, hrest⟩
  · exact Or.inr ⟨mid, hmid⟩
  · cases mid with
    | nil => exact Or.inr ⟨[], hrest.symm⟩
    | cons b mid =>
        obtain ⟨rfl, rfl⟩ := List.cons.inj hrest
        exact Or.inl ⟨mid, hmid, rfl⟩

open Deed in
/-- Deeds in which every try is accounted for: lists and creates are counted when they are sent,
just the errors that are followed up are announced, those that allow another try are counted, and
of these one is not followed up only when the tries have run out. -/
structure Balanced (attempts : Nat) (ds : List Deed) : Prop where
  lists : ds.countP (counts .listCalls) = ds.countP (asks .list)
  creates : ds.countP (counts .createCalls) = ds.countP (asks .create)
  announced : ∀ id, followedUp (mark id ds) = ds.countP announces
  transient : ∀ id, ds.countP (counts .transientFailures) =
    ds.countP announces + givenUp (mark id ds)
  exhausted : ∀ earlier d later x, ds = earlier ++ d :: later → d.error? = some x →
    x.2.isTransient = true → later.any (sends x.1) = false → ds.countP (sends x.1) = attempts

structure Deed.Plain (d : Deed) : Prop where
  request? : d.request? = none
  announces : d.announces = false
  counts : ∀ c ∈ [Counter.listCalls, .createCalls, .transientFailures], d.counts c = false

namespace Balanced

variable {attempts : Nat} {ds ds' : List Deed}

theorem append (h : Balanced attempts ds) (h' : Balanced attempts ds') (ha : Apart ds ds') :
    Balanced attempts (ds ++ ds') where
  lists := by rw [List.countP_append, List.countP_append, h.lists, h'.lists]
  creates := by rw [List.countP_append, List.countP_append, h.creates, h'.creates]
  announced := by
    intro id
    rw [followedUp_append ha, List.countP_append, h.announced, h'.announced]
  transient := by
    intro id
    have hfirst := h.transient id
    have hsecond := h'.transient id
    rw [givenUp_append ha, List.countP_append, List.countP_append]
    omega
  exhausted := by
    intro earlier d later x hsplit hx ht hlater
    rw [List.countP_append]
    rcases append_eq_split hsplit with ⟨mid, hds, rfl⟩ | ⟨mid, hds'⟩
    · obtain ⟨hmid, hrest⟩ : mid.any (Deed.sends x.1) = false ∧ ds'.any (Deed.sends x.1) = false :=
        Bool.or_eq_false_iff.1 (List.any_append ▸ hlater)
      have hnone : ds'.countP (Deed.sends x.1) = 0 :=
        List.countP_eq_zero.2 (List.any_eq_false.1 hrest)
      rw [hnone, h.exhausted earlier d mid x hds hx ht hmid, Nat.add_zero]
    · have hd : d ∈ ds' := hds' ▸ List.mem_append_right _ List.mem_cons_self
      have hnone : ds.countP (Deed.sends x.1) = 0 := List.countP_eq_zero.2 fun d' hd' hs =>
        ha d' hd' d hd x.1 (Deed.request?_of_sends hs) (Deed.request?_of_error? hx)
      rw [hnone, h'.exhausted mid d later x hds' hx ht hlater, Nat.zero_add]

theorem nil : Balanced attempts [] := by
  refine ⟨rfl, rfl, fun _ => rfl, fun _ => rfl, fun earlier d later x h => ?_⟩
  simp at h

theorem single {d : Deed} (h : d.Plain) : Balanced attempts [d] := by
  have herror : d.error? = none := by
    cases he : d.error? with
    | none => rfl
    | some x => cases (Deed.request?_of_error? he).symm.trans h.request?
  have hasks : ∀ kind, d.asks kind = false := by
    intro kind
    have hr := h.request?
    cases d <;> simp_all [Deed.asks, Deed.request?]
  have hcounts := h.counts
  constructor
  · simp [hasks, hcounts]
  · simp [hasks, hcounts]
  · simp [followedUp_cons, herror, h.announces]
  · simp [givenUp_cons, herror, h.announces, hcounts]
  · intro earlier d' later x hsplit hx
    obtain ⟨rfl, rfl, rfl⟩ : earlier = [] ∧ d' = d ∧ later = [] := by
      simpa [eq_comm, and_assoc] using List.singleton_eq_append_iff.1 hsplit
    simp [herror] at hx

theorem plain (h : ∀ d ∈ ds, d.Plain) : Balanced attempts ds := by
  induction ds with
  | nil => exact nil
  | cons d ds ih =>
      obtain ⟨hd, h⟩ := List.forall_mem_cons.1 h
      refine (single hd).append (ih h) fun d' hd' _ _ r hr => ?_
      rw [List.mem_singleton.1 hd', hd.request?] at hr
      cases hr

end Balanced

namespace Persisted

variable {r : Request} {left : Nat} {ds : List Deed} {reply : Reply r}

theorem request? (h : Persisted r left ds reply) {d : Deed} (hd : d ∈ ds) {r' : Request}
    (hr : d.request? = some r') : r' = r := by
  have htry : ∀ {reply : Reply r}, d ∈ tryDeeds r reply → r' = r := by
    intro reply hd
    simp only [tryDeeds, List.mem_append, List.mem_map, List.mem_cons, List.not_mem_nil] at hd
    rcases hd with ⟨c, -, rfl⟩ | rfl | rfl | hd
    · cases hr
    · exact (Option.some.inj hr).symm
    · exact (Option.some.inj hr).symm
    · exact hd.elim
  induction h with
  | definite _ => exact htry hd
  | exhausted _ =>
      rcases List.mem_append.1 hd with hd | hd
      · exact htry hd
      · rw [List.mem_singleton.1 hd] at hr
        cases hr
  | again operation n _ _ ih =>
      simp only [List.mem_append, List.mem_cons] at hd
      rcases hd with hd | rfl | rfl | hd
      · exact htry hd
      · cases hr
      · cases hr
      · exact ih hd

theorem any_sends (h : Persisted r left ds reply) : ds.any (Deed.sends r) = true := by
  cases h <;> simp [tryDeeds, Deed.sends]

theorem any_isSent (h : Persisted r left ds reply) : ds.any Deed.isSent = true := by
  obtain ⟨d, hd, hs⟩ := List.any_eq_true.1 h.any_sends
  refine List.any_eq_true.2 ⟨d, hd, ?_⟩
  cases d <;> simp_all [Deed.sends, Deed.isSent]

theorem countP_try (P : Deed → Bool) (reply : Reply r) :
    (tryDeeds r reply).countP P = (callCounter r).toList.countP (fun c => P (.counted c)) +
      ((if P (.sent r) then 1 else 0) + if P (.heard ⟨r, reply⟩) then 1 else 0) := by
  simp [tryDeeds, List.countP_cons, List.countP_map, Function.comp_def, Nat.add_comm]

/-- What concerns answers that allow no other try is decided by the last one. -/
theorem countP_reply (h : Persisted r left ds reply) {P : Deed → Bool}
    (hsent : P (.sent r) = false) (hcounted : ∀ c, P (.counted c) = false)
    (hreported : ∀ e, P (.reported e) = false)
    (hlost : ∀ e : Catalog.Error, e.isTransient = true → P (.heard ⟨r, .error e⟩) = false) :
    ds.countP P = if P (.heard ⟨r, reply⟩) then 1 else 0 := by
  induction h with
  | definite _ => simp [countP_try, hsent, hcounted]
  | exhausted he => simp [countP_try, hsent, hcounted]
  | again operation n he _ ih => simp [countP_try, hsent, hlost _ he, hcounted, hreported, ih]

theorem countP_counts (h : Persisted r left ds reply) {c : Counter} (hlist : c ≠ .listCalls)
    (hcreate : c ≠ .createCalls) (hlost : c ≠ .transientFailures) :
    ds.countP (Deed.counts c) = 0 := by
  have htry : ∀ reply : Reply r, (tryDeeds r reply).countP (Deed.counts c) = 0 := by
    intro reply
    cases r <;> simp [countP_try, callCounter, hlist.symm, hcreate.symm]
  induction h with
  | definite _ => exact htry _
  | exhausted _ => simp [htry, hlost.symm]
  | again operation n _ _ ih => simp [htry, hlost.symm, ih]

theorem countP_calls (h : Persisted r left ds reply) {kind : Kind} {c : Counter}
    (hc : c ≠ .transientFailures) (hr : callCounter r = some c ↔ r.kind = kind) :
    ds.countP (Deed.counts c) = ds.countP (Deed.asks kind) := by
  have htry : ∀ reply : Reply r,
      (tryDeeds r reply).countP (Deed.counts c) = (tryDeeds r reply).countP (Deed.asks kind) := by
    intro reply
    by_cases hk : r.kind = kind
    · simp [countP_try, hr.2 hk, Deed.asks, hk]
    · have hne := mt hr.1 hk
      cases hcall : callCounter r <;> simp_all [countP_try, Deed.asks]
  induction h with
  | definite _ => exact htry _
  | exhausted _ => simp [htry, Deed.asks, hc.symm]
  | again operation n _ _ ih => simp [htry, Deed.asks, hc.symm, ih]

theorem followedUp_try (id : ThreadId) (reply : Reply r) (ds : List Deed) :
    followedUp (mark id (tryDeeds r reply ++ ds)) = followedUp (mark id ds) +
      if (Exchange.error? ⟨r, reply⟩).isSome && ds.any (Deed.sends r) then 1 else 0 := by
  cases r <;> cases reply <;>
    simp [tryDeeds, callCounter, followedUp_cons, Deed.error?, Exchange.error?]

theorem givenUp_try (id : ThreadId) (reply : Reply r) (ds : List Deed) :
    givenUp (mark id (tryDeeds r reply ++ ds)) = givenUp (mark id ds) +
      if (Exchange.error? ⟨r, reply⟩).any (·.isTransient) && !ds.any (Deed.sends r) then 1
      else 0 := by
  cases r <;> cases reply <;>
    simp [tryDeeds, callCounter, givenUp_cons, Deed.error?, Exchange.error?]

theorem announced (h : Persisted r left ds reply) (id : ThreadId) :
    followedUp (mark id ds) = ds.countP Deed.announces := by
  induction h with
  | @definite _ reply _ =>
      have hone := followedUp_try id reply []
      simpa [countP_try, Deed.announces] using hone
  | exhausted _ =>
      rw [followedUp_try]
      simp [followedUp_cons, countP_try, Deed.error?, Deed.sends, Deed.announces]
  | again operation n _ h ih =>
      rw [followedUp_try, followedUp_cons, followedUp_cons, ih]
      simp [countP_try, List.countP_cons, Deed.error?, Exchange.error?, Deed.announces,
        h.any_sends]

theorem transient (h : Persisted r left ds reply) (id : ThreadId) :
    ds.countP (Deed.counts .transientFailures) =
      ds.countP Deed.announces + givenUp (mark id ds) := by
  have htry : ∀ reply : Reply r, (tryDeeds r reply).countP (Deed.counts .transientFailures) = 0 ∧
      (tryDeeds r reply).countP Deed.announces = 0 := by
    intro reply
    cases r <;> simp [countP_try, callCounter, Deed.announces]
  induction h with
  | @definite _ reply hdefinite =>
      have hlast : (Exchange.error? ⟨r, reply⟩).any (·.isTransient) = false := by
        cases reply with
        | ok a => rfl
        | error e => exact hdefinite e rfl
      have hone := givenUp_try id reply []
      rw [hlast, List.append_nil] at hone
      rw [hone, (htry reply).1, (htry reply).2]
      rfl
  | exhausted he =>
      rw [givenUp_try, List.countP_append, List.countP_append, (htry _).1, (htry _).2]
      simp [givenUp_cons, Deed.error?, Exchange.error?, Deed.sends, Deed.announces, he]
  | @again _ e ds _ operation n _ h ih =>
      have hresent : (Deed.counted .transientFailures :: .reported (.retrying operation n e) ::
          ds).any (Deed.sends r) = true := by simp [h.any_sends]
      rw [givenUp_try, givenUp_cons, givenUp_cons, List.countP_append, List.countP_append,
        (htry _).1, (htry _).2, hresent]
      simp only [List.countP_cons, Deed.error?, Deed.announces, ih]
      simp
      omega

theorem error?_of_mem {d : Deed} (hd : d ∈ tryDeeds r reply) {x : Request × Catalog.Error}
    (hx : d.error? = some x) : x.1 = r ∧ reply = .error x.2 := by
  simp only [tryDeeds, List.mem_append, List.mem_map, List.mem_cons, List.not_mem_nil] at hd
  rcases hd with ⟨c, -, rfl⟩ | rfl | rfl | hd
  · cases hx
  · cases hx
  · cases reply with
    | ok a => cases hx
    | error e =>
        obtain rfl := Option.some.inj hx
        exact ⟨rfl, rfl⟩
  · exact hd.elim

theorem exhausted_sends (h : Persisted r left ds reply) {earlier later : List Deed} {d : Deed}
    {x : Request × Catalog.Error} (hsplit : ds = earlier ++ d :: later) (hx : d.error? = some x)
    (ht : x.2.isTransient = true) (hlater : later.any (Deed.sends r) = false) :
    ds.countP (Deed.sends r) = left + 1 := by
  have htry : ∀ reply : Reply r, (tryDeeds r reply).countP (Deed.sends r) = 1 := by
    intro reply
    simp [countP_try, Deed.sends]
  have hmem : d ∈ ds := hsplit ▸ List.mem_append_right _ List.mem_cons_self
  induction h generalizing earlier with
  | definite hdefinite =>
      obtain ⟨-, he⟩ := error?_of_mem hmem hx
      simp [hdefinite _ he] at ht
  | exhausted _ => simp [htry, Deed.sends]
  | @again _ e _ _ operation n he h ih =>
      rcases append_eq_split hsplit with ⟨mid, -, rfl⟩ | ⟨mid, hrest⟩
      · -- After an error within the first try the request is sent again.
        simp [h.any_sends] at hlater
      · have hrest : [Deed.counted .transientFailures, .reported (.retrying operation n e)] ++ _ =
            mid ++ d :: later := hrest
        rcases append_eq_split hrest with ⟨mid', hmid, -⟩ | ⟨mid', hds⟩
        · have hd : d ∈ [Deed.counted .transientFailures, .reported (.retrying operation n e)] :=
            hmid ▸ List.mem_append_right mid List.mem_cons_self
          simp only [List.mem_cons, List.not_mem_nil, or_false] at hd
          rcases hd with rfl | rfl <;> cases hx
        · have hsent := ih hds (hds ▸ List.mem_append_right _ List.mem_cons_self)
          rw [List.countP_append, htry, List.countP_cons, List.countP_cons, hsent]
          simp [Deed.sends]
          omega

theorem balanced (h : Persisted r left ds reply) : Balanced (left + 1) ds where
  lists := h.countP_calls (by simp) (by cases r <;> simp [callCounter, Request.kind])
  creates := h.countP_calls (by simp) (by cases r <;> simp [callCounter, Request.kind])
  announced := h.announced
  transient := h.transient
  exhausted := by
    intro earlier d later x hsplit hx ht hlater
    have hmem : d ∈ ds := hsplit ▸ List.mem_append_right _ List.mem_cons_self
    obtain rfl : x.1 = r := h.request? hmem (Deed.request?_of_error? hx)
    exact h.exhausted_sends hsplit hx ht hlater

/-- Tries of different requests do not get in each other's way. -/
theorem apart {r' : Request} {left' : Nat} {ds' : List Deed} {reply' : Reply r'}
    (h : Persisted r left ds reply) (h' : Persisted r' left' ds' reply') (hne : r ≠ r') :
    Apart ds ds' := by
  intro d hd d' hd' q hq hq'
  exact hne ((h.request? hd hq).symm.trans (h'.request? hd' hq'))

theorem brings (h : Persisted r left ds reply) :
    ds.countP Deed.brings = if Deed.brings (.heard ⟨r, reply⟩) then 1 else 0 :=
  h.countP_reply rfl (fun _ => rfl) (fun _ => rfl) fun _ _ => by simp [Deed.brings, Exchange.error?]

theorem collides (h : Persisted r left ds reply) :
    ds.countP Deed.collides = if Deed.collides (.heard ⟨r, reply⟩) then 1 else 0 := by
  refine h.countP_reply rfl (fun _ => rfl) (fun _ => rfl) fun e he => ?_
  cases e <;> simp_all [Deed.collides, Deed.error?, Exchange.error?, Catalog.Error.isTransient,
    Catalog.Error.isConflict]

end Persisted

/-! ## The parts of an operation -/

theorem Apart.plain_right {ds ds' : List Deed} (h : ∀ d ∈ ds', d.Plain) : Apart ds ds' := by
  intro _ _ d hd r _ hr
  rw [(h d hd).request?] at hr
  cases hr

open Deed in
/-- A part of an operation all of whose deeds are accounted for, by how it ended. -/
structure Audited (attempts : Nat) (ds : List Deed) (o : Outcome) : Prop where
  balanced : Balanced attempts ds
  created : ds.countP (counts .functionsCreated) = ds.countP brings
  recovered : ds.countP (counts .conflictsRecovered) ≤ ds.countP collides
  failures : 0 < ds.countP (counts .failures) ↔ ∃ e, o = .error e

@[simp] theorem Deed.plain_reported {e : Event} :
    (Deed.reported e).Plain ↔ Deed.announces (.reported e) = false :=
  ⟨(·.announces), fun h => ⟨rfl, h, fun _ _ => rfl⟩⟩

@[simp] theorem Deed.plain_counted {c : Counter} :
    (Deed.counted c).Plain ↔ c ∉ [Counter.listCalls, .createCalls, .transientFailures] := by
  constructor
  · intro h hc
    have hcounts := h.counts c hc
    simp [Deed.counts] at hcounts
  · refine fun h => ⟨rfl, rfl, fun c' hc' => ?_⟩
    have hne : c ≠ c' := fun he => h (he ▸ hc')
    simp [Deed.counts, hne]

section

variable {p : Provisioner} {k : Container} {ds ds' tail : List Deed} {o : Outcome}

theorem Persisted.balanced_append {r : Request} {reply : Reply r}
    (h : Persisted r (p.attempts - 1) ds reply) (htail : ∀ d ∈ tail, d.Plain) :
    Balanced p.attempts (ds ++ tail) := by
  have hds := h.balanced
  rw [Nat.sub_add_cancel p.attempts_pos] at hds
  exact hds.append (.plain htail) (.plain_right htail)

theorem Persisted.balanced_both {r r' : Request} {reply : Reply r} {reply' : Reply r'} {e : Event}
    (h : Persisted r (p.attempts - 1) ds reply) (h' : Persisted r' (p.attempts - 1) ds' reply')
    (hne : r ≠ r') (he : Deed.announces (.reported e) = false) (htail : ∀ d ∈ tail, d.Plain) :
    Balanced p.attempts (ds ++ .reported e :: (ds' ++ tail)) := by
  have hfirst : Balanced p.attempts (ds ++ [.reported e]) := h.balanced_append (by simpa using he)
  have hboth := hfirst.append (h'.balanced_append htail) ?_
  · simpa using hboth
  · intro d hd d' hd' q hq hq'
    rcases List.mem_append.1 hd with hd | hd
    · rcases List.mem_append.1 hd' with hd' | hd'
      · exact h.apart h' hne d hd d' hd' q hq hq'
      · exact Apart.plain_right htail d hd d' hd' q hq hq'
    · rw [List.mem_singleton.1 hd] at hq
      cases hq

theorem Provided.audited {f : Requirement} (h : Provided p k f ds o) :
    Audited p.attempts ds o ∧ ds.countP (Deed.counts .fastPathHits) = 0 := by
  cases h with
  | found =>
      refine ⟨⟨.plain (by simp [Deed.announces]), rfl, Nat.le_refl 0, ?_⟩, rfl⟩
      simp
  | created ht =>
      refine ⟨⟨ht.balanced_append (by simp [Deed.announces]), ?_, ?_, ?_⟩, ?_⟩
      all_goals simp [ht.countP_counts, ht.brings, Deed.brings, Exchange.error?, Request.kind]
  | refused ht _ =>
      refine ⟨⟨ht.balanced_append (by simp [Deed.announces]), ?_, ?_, ?_⟩, ?_⟩
      all_goals simp [ht.countP_counts, ht.brings, Deed.brings, Exchange.error?]
  | recovered name ht hrec ht' =>
      have hc := (Bool.and_eq_true_iff.1 hrec).1
      refine ⟨⟨ht.balanced_both ht' (by simp) rfl (by simp [Deed.announces]), ?_, ?_, ?_⟩, ?_⟩
      all_goals simp [ht.countP_counts, ht'.countP_counts, ht.brings, ht'.brings, ht.collides,
        Deed.brings, Deed.collides, Deed.error?, Exchange.error?, Request.kind, hc]
  | unseen name ht _ ht' =>
      refine ⟨⟨ht.balanced_both ht' (by simp) rfl (by simp [Deed.announces]), ?_, ?_, ?_⟩, ?_⟩
      all_goals simp [ht.countP_counts, ht'.countP_counts, ht.brings, ht'.brings, Deed.brings,
        Exchange.error?, Request.kind]
  | unlisted ht _ ht' =>
      refine ⟨⟨ht.balanced_both ht' (by simp) rfl (by simp), ?_, ?_, ?_⟩, ?_⟩
      all_goals simp [ht.countP_counts, ht'.countP_counts, ht.brings, ht'.brings, Deed.brings,
        Exchange.error?]

/-- Finding out what is missing takes the short way just if it succeeds without a request. -/
theorem Surveyed.audited {S : Surroundings} {rs : List Requirement} {start c : Cache}
    (h : Surveyed S p k rs start ds o c) :
    Audited p.attempts ds o ∧ ds.countP (Deed.counts .fastPathHits) =
      if o.toBool && !ds.any Deed.isSent then 1 else 0 := by
  cases h with
  | known _ _ _ =>
      refine ⟨⟨.plain (by simp [Deed.announces]), rfl, Nat.le_refl 0, ?_⟩, rfl⟩
      simp
  | unsupported ids _ =>
      refine ⟨⟨.plain (by simp), rfl, Nat.le_refl 0, ?_⟩, rfl⟩
      simp
  | unlisted ht =>
      refine ⟨⟨ht.balanced_append (by simp), ?_, ?_, ?_⟩, ?_⟩
      all_goals simp [ht.countP_counts, ht.brings, Deed.brings, Exchange.error?, Except.toBool]
  | listed name e ht _ _ _ _ he =>
      refine ⟨⟨ht.balanced_append ?_, ?_, ?_, ?_⟩, ?_⟩
      · rcases he with rfl | rfl <;> simp [Deed.announces]
      all_goals simp [ht.countP_counts, ht.brings, ht.any_isSent, Deed.brings, Request.kind]

theorem Removed.audited {id : String} (h : Removed p k id ds o) :
    Audited p.attempts ds o ∧ ds.countP (Deed.counts .fastPathHits) = 0 := by
  cases h with
  | removed ht =>
      refine ⟨⟨ht.balanced_append (by simp [Deed.announces]), ?_, ?_, ?_⟩, ?_⟩
      all_goals simp [ht.countP_counts, ht.brings, Deed.brings, Request.kind]
  | refused ht =>
      refine ⟨⟨ht.balanced_append (by simp), ?_, ?_, ?_⟩, ?_⟩
      all_goals simp [ht.countP_counts, ht.brings, Deed.brings, Request.kind]

end

end DocQuery.Provision
