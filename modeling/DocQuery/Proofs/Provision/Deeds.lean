import DocQuery.Catalog.Scripted
import DocQuery.Proofs.Cache
import DocQuery.Proofs.Catalog.Phases
import DocQuery.Proofs.Provision.Steps
import DocQuery.Provision.Provisioner

/-! # What a flow does

A flow is followed by itself: what it does that others can notice, in order, and what it finds in
the cache, whatever answers it gets and whatever others do to the cache while it waits. What a part
of an operation does is told by its tries: each is counted and sent, an error that allows another
try is counted too, and announced if there is another try.
-/

namespace DocQuery.Provision

open Catalog (Kind Reply Request)

def Exchange.error? (x : Exchange) : Option Catalog.Error :=
  match x.reply with
  | .error e => some e
  | .ok _ => none

namespace Deed

def asks (kind : Kind) : Deed → Bool
  | .sent r => r.kind = kind
  | _ => false

def sends (r : Request) : Deed → Bool
  | .sent r' => r' = r
  | _ => false

def isSent : Deed → Bool
  | .sent _ => true
  | _ => false

def heard? : Deed → Option Exchange
  | .heard x => some x
  | _ => none

def counts (c : Counter) : Deed → Bool
  | .counted c' => c' = c
  | _ => false

def brings : Deed → Bool
  | .heard x => x.request.kind = .create && x.error?.isNone
  | _ => false

def error? : Deed → Option (Request × Catalog.Error)
  | .heard x => x.error?.map (x.request, ·)
  | _ => none

def collides (d : Deed) : Bool := d.error?.any fun x => x.1.kind = .create && x.2.isConflict

def announces : Deed → Bool
  | .reported (.retrying ..) => true
  | _ => false

section

variable {r : Request} {x : Exchange} {c c' : Counter} {e : Event}

@[simp] theorem counts_counted : counts c (.counted c') = decide (c' = c) := rfl
@[simp] theorem counts_sent : counts c (.sent r) = false := rfl
@[simp] theorem counts_heard : counts c (.heard x) = false := rfl
@[simp] theorem counts_reported : counts c (.reported e) = false := rfl

@[simp] theorem heard?_heard : heard? (.heard x) = some x := rfl
@[simp] theorem heard?_sent : heard? (.sent r) = none := rfl
@[simp] theorem heard?_counted : heard? (.counted c) = none := rfl
@[simp] theorem heard?_reported : heard? (.reported e) = none := rfl

@[simp] theorem brings_counted : brings (.counted c) = false := rfl
@[simp] theorem brings_reported : brings (.reported e) = false := rfl

@[simp] theorem collides_counted : collides (.counted c) = false := rfl
@[simp] theorem collides_reported : collides (.reported e) = false := rfl

@[simp] theorem isSent_counted : isSent (.counted c) = false := rfl
@[simp] theorem isSent_reported : isSent (.reported e) = false := rfl

end

end Deed

/-! ## Flows in their surroundings -/

/-- What a flow has to reckon with: the answers that the catalog can give, and what others can do to
the cache while the flow waits. -/
structure Surroundings where
  answers : (r : Request) → Reply r → Prop
  caches : Cache → Cache → Prop
  refl : ∀ c, caches c c
  trans : ∀ {c c' c''}, caches c c' → caches c' c'' → caches c c''

namespace Surroundings

def any : Surroundings where
  answers _ _ := True
  caches _ _ := True
  refl _ := trivial
  trans _ _ := trivial

/-- Answers that can be taken at their word, and a cache that forgets nothing. -/
def sincere : Surroundings where
  answers r reply := r.Sincere reply
  caches := Cache.Grows
  refl := .refl
  trans := .trans

def Admits {σ : Type} (S : Surroundings) (catalog : Catalog σ) : Prop :=
  ∀ now r s, match (catalog.submit now r s).value with
    | .now reply => S.answers r reply
    | .later _ finish => ∀ s', S.answers r (finish s').value

theorem any_admits {σ : Type} (catalog : Catalog σ) : any.Admits catalog := by
  intro now r s
  split
  · trivial
  · exact fun _ => trivial

/-- What holds from some time on, whatever others do to the cache. -/
def Lasting {α : Type} (S : Surroundings) (Q : List Deed → α → Cache → Prop) (ds : List Deed)
    (a : α) (c : Cache) : Prop :=
  ∀ c', S.caches c c' → Q ds a c'

end Surroundings

def Command.Gives (S : Surroundings) : (c : Command) → Cache → c.Answer → Cache → Prop
  | .readCache, cache, a, cache' => a = cache ∧ cache' = cache
  | .changeCache x, cache, _, cache' => cache' = cache.apply x
  | .request r, cache, reply, cache' => S.answers r reply ∧ S.caches cache cache'
  | .sleep _, cache, _, cache' => S.caches cache cache'
  | .acquire _, cache, _, cache' => S.caches cache cache'
  | _, cache, _, cache' => cache' = cache

namespace Flow

variable {α β : Type} {S : Surroundings}

/-- A flow that, with what it has done so far and what the cache holds, ends as `Q` says. -/
def Does (S : Surroundings) (Q : List Deed → α → Cache → Prop) :
    Flow α → List Deed → Cache → Prop
  | .done a, ds, cache => Q ds a cache
  | .step c next, ds, cache => ∀ a cache', c.Gives S cache a cache' →
    Does S Q (next a) (ds ++ c.deeds a) cache'

/-- Flows one after the other: the second goes on where the first ends. -/
theorem does_seq {Q : List Deed → β → Cache → Prop} {p : Flow α} {f : α → Flow β}
    {ds : List Deed} {cache : Cache}
    (h : p.Does S (fun ds a cache => (f a).Does S Q ds cache) ds cache) :
    (p >>= f).Does S Q ds cache := by
  show (p.bind f).Does S Q ds cache
  induction p generalizing ds cache with
  | done a => exact h
  | step c next ih => exact fun a cache' hg => ih a (h a cache' hg)

theorem Does.mono {Q Q' : List Deed → α → Cache → Prop} {p : Flow α} {ds : List Deed}
    {cache : Cache} (h : p.Does S Q ds cache) (hQ : ∀ ds a cache, Q ds a cache → Q' ds a cache) :
    p.Does S Q' ds cache := by
  induction p generalizing ds cache with
  | done a => exact hQ _ _ _ h
  | step c next ih => exact fun a cache' hg => ih a (h a cache' hg)

section

variable {Q : List Deed → α → Cache → Prop} {ds : List Deed} {cache : Cache}

@[simp] theorem does_pure {a : α} : (pure a : Flow α).Does S Q ds cache ↔ Q ds a cache := Iff.rfl

theorem does_silent {c : Command} {f : c.Answer → Flow α} (hc : ∀ a, c.deeds a = [])
    (h : ∀ a cache', c.Gives S cache a cache' → (f a).Does S Q ds cache') :
    (perform c >>= f).Does S Q ds cache := by
  intro a cache' hg
  rw [hc, List.append_nil]
  exact h a cache' hg

theorem does_count {c : Counter} {f : Unit → Flow α}
    (h : (f ()).Does S Q (ds ++ [.counted c]) cache) : (count c >>= f).Does S Q ds cache := by
  rintro _ _ rfl
  exact h

theorem does_report {e : Event} {f : Unit → Flow α}
    (h : (f ()).Does S Q (ds ++ [.reported e]) cache) : (report e >>= f).Does S Q ds cache := by
  rintro _ _ rfl
  exact h

theorem does_readCache {f : Cache → Flow α} (h : (f cache).Does S Q ds cache) :
    (readCache >>= f).Does S Q ds cache := by
  refine does_silent (fun _ => rfl) ?_
  rintro _ _ ⟨rfl, rfl⟩
  exact h

theorem does_changeCache {x : Cache.Change} {f : Unit → Flow α}
    (h : (f ()).Does S Q ds (cache.apply x)) : (changeCache x >>= f).Does S Q ds cache := by
  refine does_silent (fun _ => rfl) ?_
  rintro _ _ rfl
  exact h

theorem does_sleep {delay : Duration} {f : Unit → Flow α}
    (h : ∀ cache', S.caches cache cache' → (f ()).Does S Q ds cache') :
    (sleep delay >>= f).Does S Q ds cache :=
  does_silent (fun _ => rfl) fun _ => h

theorem does_acquire {l : LockId} {f : Unit → Flow α}
    (h : ∀ cache', S.caches cache cache' → (f ()).Does S Q ds cache') :
    (acquire l >>= f).Does S Q ds cache :=
  does_silent (fun _ => rfl) fun _ => h

theorem does_catalogName {f : String → Flow α} (h : ∀ name, (f name).Does S Q ds cache) :
    (catalogName >>= f).Does S Q ds cache := by
  refine does_silent (fun _ => rfl) ?_
  rintro name _ rfl
  exact h name

theorem does_fetchLock {key : LockKey} {f : LockId → Flow α} (h : ∀ l, (f l).Does S Q ds cache) :
    (fetchLock key >>= f).Does S Q ds cache := by
  refine does_silent (fun _ => rfl) ?_
  rintro l _ rfl
  exact h l

theorem does_release {l : LockId} {f : Unit → Flow α} (h : (f ()).Does S Q ds cache) :
    (release l >>= f).Does S Q ds cache := by
  refine does_silent (fun _ => rfl) ?_
  rintro _ _ rfl
  exact h

theorem does_discard {key : LockKey} {l : LockId} {f : Unit → Flow α}
    (h : (f ()).Does S Q ds cache) : (discard key l >>= f).Does S Q ds cache := by
  refine does_silent (fun _ => rfl) ?_
  rintro _ _ rfl
  exact h

end

end Flow

/-! ## Tries -/

def callCounter : Request → Option Counter
  | .list _ => some .listCalls
  | .create .. => some .createCalls
  | .delete .. => none

def tryDeeds (r : Request) (reply : Reply r) : List Deed :=
  (callCounter r).toList.map .counted ++ [.sent r, .heard ⟨r, reply⟩]

/-- What is done to have a request answered, when so many tries may follow a failure. -/
inductive Persisted (r : Request) : Nat → List Deed → Reply r → Prop
  | definite {left : Nat} {reply : Reply r} : (∀ e, reply = .error e → e.isTransient = false) →
      Persisted r left (tryDeeds r reply) reply
  | exhausted {e : Catalog.Error} : e.isTransient = true →
      Persisted r 0 (tryDeeds r (.error e) ++ [.counted .transientFailures]) (.error e)
  | again {left : Nat} {e : Catalog.Error} {ds : List Deed} {reply : Reply r}
      (operation : Operation) (n : Nat) : e.isTransient = true → Persisted r left ds reply →
      Persisted r (left + 1) (tryDeeds r (.error e) ++
        .counted .transientFailures :: .reported (.retrying operation n e) :: ds) reply

variable {S : Surroundings} {cache : Cache}

theorem runAux_does (policy : RetryPolicy) {operation : Operation} {r : Request}
    {act : Flow (Reply r)}
    (hact : ∀ {Q : List Deed → Reply r → Cache → Prop} {ds : List Deed} {cache : Cache},
      (∀ reply cache', S.answers r reply → S.caches cache cache' →
        Q (ds ++ tryDeeds r reply) reply cache') → act.Does S Q ds cache)
    (left attempt : Nat) {ds : List Deed}
    {Q : List Deed → Except (RetryFailure Catalog.Error) r.Result → Cache → Prop}
    (hQ : ∀ ds' a cache', Persisted r left ds' (a.mapError RetryFailure.cause) →
      S.answers r (a.mapError RetryFailure.cause) → S.caches cache cache' →
      Q (ds ++ ds') a cache') :
    (policy.runAux act Provisioner.classify
      (fun e n => Flow.report (.retrying operation n e)) Flow.sleep left attempt).Does S Q ds
        cache := by
  induction left generalizing attempt ds cache with
  | zero =>
      refine Flow.does_seq (hact fun reply cache₁ ha hc => ?_)
      cases reply with
      | ok a => exact hQ _ (.ok a) cache₁ (.definite (by simp)) ha hc
      | error e =>
          simp only [Provisioner.classify]
          cases he : e.isTransient with
          | false =>
              exact hQ _ (.error (.fatal e)) cache₁ (.definite (by rintro _ ⟨⟩; exact he)) ha hc
          | true =>
              refine Flow.does_count ?_
              rw [List.append_assoc]
              exact hQ _ (.error (.exhausted e)) cache₁ (.exhausted he) ha hc
  | succ left ih =>
      refine Flow.does_seq (hact fun reply cache₁ ha hc => ?_)
      cases reply with
      | ok a => exact hQ _ (.ok a) cache₁ (.definite (by simp)) ha hc
      | error e =>
          simp only [Provisioner.classify]
          cases he : e.isTransient with
          | false =>
              exact hQ _ (.error (.fatal e)) cache₁ (.definite (by rintro _ ⟨⟩; exact he)) ha hc
          | true =>
              refine Flow.does_count (Flow.does_report (Flow.does_sleep fun cache₂ hc₂ => ?_))
              refine ih (attempt + 1) fun ds' a cache₃ ht ha' hc₃ => ?_
              have hmore := hQ _ a cache₃ (.again operation (attempt + 1) he ht) ha'
                (S.trans (S.trans hc hc₂) hc₃)
              simpa using hmore

namespace Provisioner

variable (p : Provisioner) {ds : List Deed}

def attempts : Nat := p.settings.retryPolicy.maxAttempts

theorem attempts_pos : 0 < p.attempts := Nat.le_max_right _ _

theorem persist_does {operation : Operation} {r : Request} {Q : List Deed → Reply r → Cache → Prop}
    (hQ : ∀ ds' reply cache', Persisted r (p.attempts - 1) ds' reply → S.answers r reply →
      S.caches cache cache' → Q (ds ++ ds') reply cache') :
    (p.persist operation (callCounter r) r).Does S Q ds cache := by
  refine Flow.does_seq (runAux_does _ (fun {Q ds cache} h => ?_) _ 0 fun ds' a cache' ht ha hc =>
    hQ ds' _ cache' ht ha hc)
  cases r with
  | list k =>
      refine Flow.does_count fun reply cache' hg => ?_
      rw [List.append_assoc]
      exact h reply cache' hg.1 hg.2
  | create k f =>
      refine Flow.does_count fun reply cache' hg => ?_
      rw [List.append_assoc]
      exact h reply cache' hg.1 hg.2
  | delete k id => exact fun reply cache' hg => h reply cache' hg.1 hg.2

theorem refresh_does {k : Container} {Q : List Deed → Except Error Unit → Cache → Prop}
    (hok : ∀ ds' (records : List Record) name cache',
      Persisted (.list k) (p.attempts - 1) ds' (.ok records) → S.caches cache cache' →
      Q (ds ++ ds' ++ [.reported (.listed k records.length name)]) (.ok ())
        (cache'.apply (.merge k records)))
    (herror : ∀ ds' e cache', Persisted (.list k) (p.attempts - 1) ds' (.error e) →
      Q (ds ++ ds' ++ [.counted .failures]) (.error (.list k e)) cache') :
    (p.refresh k).Does S Q ds cache := by
  refine Flow.does_seq (p.persist_does (r := .list k) fun ds' reply cache' ht _ hc => ?_)
  cases reply with
  | error e => exact Flow.does_count (herror ds' e cache' ht)
  | ok records =>
      refine Flow.does_catalogName fun name => Flow.does_report (Flow.does_changeCache ?_)
      exact hok ds' records name cache' ht hc

end Provisioner

/-! ## The parts of an operation -/

/-- What is done to provide a function: somebody else was faster, or it was created, or refused, or
it existed and a listing shows it, or does not show it, or there was no listing. -/
inductive Provided (p : Provisioner) (k : Container) (f : Requirement) :
    List Deed → Outcome → Prop
  | found : Provided p k f [.reported (.createdElsewhere k f.id)] (.ok [])
  | created {ds : List Deed} {record : Record} :
      Persisted (.create k f) (p.attempts - 1) ds (.ok record) →
      Provided p k f (ds ++ [.reported (.created k record.id record.handle),
        .counted .functionsCreated]) (.ok [])
  | refused {ds : List Deed} {e : Catalog.Error} :
      Persisted (.create k f) (p.attempts - 1) ds (.error e) →
      (e.isConflict && p.settings.recoverConflicts) = false →
      Provided p k f (ds ++ [.reported (.createFailed k f.id e), .counted .failures])
        (.error (.create k f.id e))
  | recovered {ds ds' : List Deed} {e : Catalog.Error} {records : List Record} (name : String) :
      Persisted (.create k f) (p.attempts - 1) ds (.error e) →
      (e.isConflict && p.settings.recoverConflicts) = true →
      Persisted (.list k) (p.attempts - 1) ds' (.ok records) →
      Provided p k f (ds ++ .reported (.alreadyExists k f.id) :: (ds' ++
        [.reported (.listed k records.length name), .counted .conflictsRecovered])) (.ok [])
  | unseen {ds ds' : List Deed} {e : Catalog.Error} {records : List Record} (name : String) :
      Persisted (.create k f) (p.attempts - 1) ds (.error e) →
      (e.isConflict && p.settings.recoverConflicts) = true →
      Persisted (.list k) (p.attempts - 1) ds' (.ok records) →
      Provided p k f (ds ++ .reported (.alreadyExists k f.id) :: (ds' ++
        [.reported (.listed k records.length name), .reported (.createFailed k f.id e),
          .counted .failures])) (.error (.create k f.id e))
  | unlisted {ds ds' : List Deed} {e e' : Catalog.Error} :
      Persisted (.create k f) (p.attempts - 1) ds (.error e) →
      (e.isConflict && p.settings.recoverConflicts) = true →
      Persisted (.list k) (p.attempts - 1) ds' (.error e') →
      Provided p k f (ds ++ .reported (.alreadyExists k f.id) :: (ds' ++ [.counted .failures]))
        (.error (.list k e'))

/-- What is done to find out what is missing: everything was known, or the container cannot have
functions, or there was no listing, or what is left is what was unknown at first and still unknown
when the listing had been remembered. -/
inductive Surveyed (S : Surroundings) (p : Provisioner) (k : Container) (rs : List Requirement)
    (start : Cache) : List Deed → Outcome → Cache → Prop
  | known {seen c : Cache} : S.caches start seen → (∀ f ∈ rs, seen.has k f.id = true) →
      S.caches seen c → Surveyed S p k rs start
        [.counted .fastPathHits, .reported (.allCached k rs.length)] (.ok []) c
  | unsupported {c : Cache} (ids : List String) : k.hostsFunctions = false →
      Surveyed S p k rs start [.counted .failures] (.error (.unsupportedContainer k ids)) c
  | unlisted {ds : List Deed} {e : Catalog.Error} {c : Cache} :
      Persisted (.list k) (p.attempts - 1) ds (.error e) →
      Surveyed S p k rs start (ds ++ [.counted .failures]) (.error (.list k e)) c
  | listed {ds : List Deed} {records : List Record} {seen seen' c : Cache}
      {missing : List Requirement} (name : String) (e : Event) :
      Persisted (.list k) (p.attempts - 1) ds (.ok records) → S.caches start seen →
      S.caches seen seen' → S.caches (seen'.apply (.merge k records)) c →
      missing = (seen'.apply (.merge k records)).missing k
        (seen.missing k (Requirement.dedup rs)) →
      (e = .found k ∨ e = .creating k (missing.map (·.id))) →
      Surveyed S p k rs start
        (ds ++ [.reported (.listed k records.length name), .reported e]) (.ok missing) c

inductive Removed (p : Provisioner) (k : Container) (id : String) : List Deed → Outcome → Prop
  | removed {ds : List Deed} {reply : Reply (.delete k id)} :
      Persisted (.delete k id) (p.attempts - 1) ds reply →
      Removed p k id (ds ++ [.reported (.removed k id)]) (.ok [])
  | refused {ds : List Deed} {e : Catalog.Error} :
      Persisted (.delete k id) (p.attempts - 1) ds (.error e) →
      Removed p k id (ds ++ [.counted .failures]) (.error (.delete k id e))

theorem Provided.closed {p : Provisioner} {k : Container} {f : Requirement} {ds : List Deed}
    {o : Outcome} (h : Provided p k f ds o) : o.toOption.getD [] = [] := by
  cases h <;> rfl

namespace Provisioner

variable (p : Provisioner)

/-- How providing a function has ended: a function that was provided was known then, if the catalog
creates what it is asked for. -/
def Attempted (S : Surroundings) (k : Container) (f : Requirement) (ds : List Deed) (o : Outcome)
    (c : Cache) : Prop :=
  Provided p k f ds o ∧ (o = .ok [] →
    (∀ record, S.answers (.create k f) (.ok record) → Record.id record = f.id) →
    ∃ seen : Cache, seen.has k f.id = true ∧ S.caches seen c)

theorem ensureLocked_does {k : Container} {f : Requirement} {ds : List Deed}
    {Q : List Deed → Outcome → Cache → Prop}
    (hQ : ∀ ds' o cache', S.Lasting (p.Attempted S k f) ds' o cache' → Q (ds ++ ds') o cache') :
    (p.ensureLocked k f).Does S Q ds cache := by
  refine Flow.does_readCache ?_
  by_cases hknown : cache.has k f.id = true
  · rw [if_pos hknown]
    exact Flow.does_report (hQ _ _ _ fun c' hc => ⟨.found, fun _ _ => ⟨cache, hknown, hc⟩⟩)
  · rw [if_neg hknown]
    refine Flow.does_seq (p.persist_does (r := .create k f) fun ds₁ reply cache₁ ht ha _ => ?_)
    cases reply with
    | ok record =>
        have hhas : (cache₁.apply (.put k record)).has k (Record.id record) = true :=
          (Cache.has_merge cache₁ k k [record] _).2
            (Or.inr ⟨rfl, record, List.mem_singleton.2 rfl, rfl⟩)
        refine Flow.does_report (Flow.does_count (Flow.does_changeCache ?_))
        have hend := hQ _ _ (cache₁.apply (.put k record)) fun c' hc =>
          ⟨.created ht, fun _ hnames => ⟨_, hnames record ha ▸ hhas, hc⟩⟩
        simpa using hend
    | error e =>
        dsimp only
        by_cases hrec : (e.isConflict && p.settings.recoverConflicts) = true
        · rw [if_pos hrec]
          refine Flow.does_report (Flow.does_seq (p.refresh_does
            (fun ds₂ records name cache₂ ht' _ => Flow.does_readCache ?_)
            fun ds₂ e' cache₂ ht' => ?_))
          · by_cases hnow : (cache₂.apply (.merge k records)).has k f.id = true
            · rw [if_pos hnow]
              have hend := hQ _ _ _ fun c' hc =>
                ⟨.recovered name ht hrec ht', fun _ _ => ⟨_, hnow, hc⟩⟩
              refine Flow.does_count ?_
              simpa using hend
            · rw [if_neg hnow]
              have hend := hQ _ _ (cache₂.apply (.merge k records)) fun c' _ =>
                ⟨.unseen name ht hrec ht', by simp⟩
              refine Flow.does_report (Flow.does_count ?_)
              simpa using hend
          · have hend := hQ _ _ cache₂ fun c' _ => ⟨.unlisted ht hrec ht', by simp⟩
            simpa using hend
        · rw [if_neg hrec]
          have hend := hQ _ _ cache₁ fun c' _ => ⟨.refused ht (by simpa using hrec), by simp⟩
          refine Flow.does_report (Flow.does_count ?_)
          simpa using hend

theorem ensure_does (k : Container) (f : Requirement) :
    (p.ensure k f).Does S (S.Lasting (p.Attempted S k f)) [] cache := by
  refine Flow.does_fetchLock fun l => Flow.does_acquire fun cache₁ _ => ?_
  refine Flow.does_seq (p.ensureLocked_does fun ds o cache₂ h => ?_)
  exact Flow.does_release (Flow.does_discard h)

theorem survey_does (k : Container) (rs : List Requirement) {start : Cache}
    (hstart : S.caches start cache) :
    (p.survey k rs).Does S (S.Lasting (Surveyed S p k rs start)) [] cache := by
  refine Flow.does_readCache ?_
  dsimp only
  by_cases hempty : (cache.missing k (Requirement.dedup rs)).isEmpty = true
  · rw [if_pos hempty]
    exact Flow.does_count (Flow.does_report fun c hc =>
      .known hstart (Cache.missing_isEmpty_iff.1 hempty) hc)
  · rw [if_neg hempty]
    by_cases hhost : (!k.hostsFunctions) = true
    · rw [if_pos hhost]
      exact Flow.does_count fun c _ => .unsupported _ (by simpa using hhost)
    · rw [if_neg hhost]
      refine Flow.does_seq (p.refresh_does
        (fun ds records name cache₁ ht hc₁ => Flow.does_readCache ?_)
        fun ds e cache₁ ht c _ => .unlisted ht)
      split
      · refine Flow.does_report fun c hc => ?_
        simpa using Surveyed.listed name (.found k) ht hstart hc₁ hc rfl (Or.inl rfl)
      · refine Flow.does_report fun c hc => ?_
        simpa using Surveyed.listed name (.creating k _) ht hstart hc₁ hc rfl (Or.inr rfl)

theorem remove_does (k : Container) (id : String) :
    (p.remove k id).Does S (S.Lasting fun ds o _ => Removed p k id ds o) [] cache := by
  refine Flow.does_seq (p.persist_does (r := .delete k id) fun ds reply cache₁ ht _ _ => ?_)
  match reply with
  | .ok _ => exact Flow.does_changeCache (Flow.does_report fun _ _ => .removed ht)
  | .error (.notFound _) => exact Flow.does_changeCache (Flow.does_report fun _ _ => .removed ht)
  | .error (.conflict _ _) => exact Flow.does_count fun _ _ => .refused ht
  | .error (.unsupportedContainer _) => exact Flow.does_count fun _ _ => .refused ht
  | .error (.transport _) => exact Flow.does_count fun _ _ => .refused ht
  | .error (.rejected _) => exact Flow.does_count fun _ _ => .refused ht

end Provisioner

end DocQuery.Provision
