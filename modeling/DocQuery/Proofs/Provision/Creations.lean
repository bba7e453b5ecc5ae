import DocQuery.Proofs.Cache.Unique
import DocQuery.Proofs.Provision.Chronicles

/-! # What a resolve creates

Finding out what is missing sends listings only, and leaves what its looks into the cache have not
found, without repetition. Every further thread of a resolve sends listings and creates one of the
functions left, each thread the one whose turn it is. This holds of every order in which threads go
on, of every catalog, and whatever others do meanwhile.
-/

namespace DocQuery.Provision

open Catalog (Request Reply)

variable {σ α β : Type} {catalog : Catalog σ}

/-! ## Flows -/

/-- Requests of a thread that provides a function, or none: listings, and creations of the
function. -/
def Serves (k : Container) (f? : Option Requirement) (r : Request) : Prop :=
  r = .list k ∨ ∃ f, f? = some f ∧ r = .create k f

namespace Command

def Sends (S : Request → Prop) : Command → Prop
  | .request r => S r
  | _ => True

def looks : (c : Command) → c.Answer → List Cache
  | .readCache, cache => [cache]
  | _, _ => []

end Command

namespace Flow

/-- A flow whose requests are of a kind, and that ends as `Q` says, given the caches that it has
looked at. -/
def Looks (S : Request → Prop) (Q : List Cache → α → Prop) : Flow α → List Cache → Prop
  | .done a, seen => Q seen a
  | .step c next, seen => c.Sends S ∧ ∀ a, Looks S Q (next a) (seen ++ c.looks a)

variable {S : Request → Prop} {seen : List Cache}

theorem Every.looks_seq {Q : List Cache → β → Prop} {R : α → Prop} {p : Flow α} {f : α → Flow β}
    (h : p.Every (fun c => c.Sends S ∧ ∀ a, c.looks a = []) R)
    (hf : ∀ a, R a → (f a).Looks S Q seen) : (p >>= f).Looks S Q seen := by
  show (p.bind f).Looks S Q seen
  induction p with
  | done a => exact hf a h
  | step c next ih =>
      refine ⟨h.1.1, fun a => ?_⟩
      rw [h.1.2 a, List.append_nil]
      exact ih a (h.2 a)

theorem looks_readCache {Q : List Cache → α → Prop} {f : Cache → Flow α}
    (hf : ∀ c, (f c).Looks S Q (seen ++ [c])) : (Flow.readCache >>= f).Looks S Q seen :=
  ⟨trivial, hf⟩

theorem Looks.every {Q : List Cache → α → Prop} {p : Flow α} (h : p.Looks S Q seen) :
    p.Every (Command.Sends S) fun a => ∃ seen, Q seen a := by
  induction p generalizing seen with
  | done a => exact ⟨seen, h⟩
  | step c next ih => exact ⟨h.1, fun a => ih a (h.2 a)⟩

end Flow

def leftBy (k : Container) (seen : List Cache) (rs : List Requirement) : List Requirement :=
  seen.foldl (fun rs c => c.missing k rs) rs

theorem leftBy_dedup (k : Container) (seen : List Cache) (rs : List Requirement) :
    leftBy k seen (Requirement.dedup rs) = Requirement.dedup (leftBy k seen rs) := by
  induction seen generalizing rs with
  | nil => rfl
  | cons c seen ih =>
      simp only [leftBy, List.foldl_cons, Cache.missing_dedup_comm]
      exact ih (c.missing k rs)

theorem leftBy_sublist (k : Container) (seen : List Cache) (rs : List Requirement) :
    (leftBy k seen rs).Sublist rs := by
  induction seen generalizing rs with
  | nil => exact .refl rs
  | cons c seen ih => exact (ih (c.missing k rs)).trans List.filter_sublist

namespace Provisioner

variable (p : Provisioner) {S : Request → Prop}

theorem persist_sends (operation : Operation) (counter : Option Counter) {r : Request}
    (hr : S r) : (p.persist operation counter r).Every
      (fun c => c.Sends S ∧ ∀ a, c.looks a = []) fun _ => True := by
  refine (runAux_every _ ?_ (fun e => ?_) (fun e n => ?_) (fun _ => ⟨trivial, fun _ => rfl⟩) _
    0).bind fun _ _ => trivial
  · cases counter with
    | none => exact ⟨⟨hr, fun _ => rfl⟩, fun _ => trivial⟩
    | some c => exact ⟨⟨trivial, fun _ => rfl⟩, fun _ => ⟨⟨hr, fun _ => rfl⟩, fun _ => trivial⟩⟩
  · simp only [classify]
    split
    · exact ⟨⟨trivial, fun _ => rfl⟩, fun _ => trivial⟩
    · trivial
  · exact ⟨⟨trivial, fun _ => rfl⟩, fun _ => trivial⟩

theorem refresh_sends {k : Container} (hr : S (.list k)) :
    (p.refresh k).Every (fun c => c.Sends S ∧ ∀ a, c.looks a = []) fun _ => True := by
  refine (p.persist_sends _ _ hr).bind fun r _ => ?_
  cases r with
  | error e => exact ⟨⟨trivial, fun _ => rfl⟩, fun _ => trivial⟩
  | ok records =>
      refine ⟨⟨trivial, fun _ => rfl⟩, fun _ => ⟨⟨trivial, fun _ => rfl⟩, fun _ => ?_⟩⟩
      exact ⟨⟨trivial, fun _ => rfl⟩, fun _ => trivial⟩

/-- What a survey leaves is what its looks have not found, without repetition. -/
theorem survey_looks (k : Container) (rs : List Requirement) :
    (p.survey k rs).Looks (Serves k none)
      (fun seen o => ∀ fs, o = .ok fs → fs = Requirement.dedup (leftBy k seen rs)) [] := by
  refine Flow.looks_readCache fun c => ?_
  dsimp only
  split
  · rename_i hempty
    refine ⟨trivial, fun _ => ⟨trivial, fun _ fs hfs => ?_⟩⟩
    obtain rfl := Except.ok.inj hfs
    rw [← leftBy_dedup]
    exact (List.isEmpty_iff.1 hempty).symm
  · split
    · exact ⟨trivial, fun _ fs hfs => nomatch hfs⟩
    · refine (p.refresh_sends (.inl rfl)).looks_seq fun r _ => ?_
      cases r with
      | error e => exact fun fs hfs => nomatch hfs
      | ok _ =>
          refine Flow.looks_readCache fun c' => ?_
          have hleft : c'.missing k (c.missing k (Requirement.dedup rs)) =
              Requirement.dedup (leftBy k [c, c'] rs) := leftBy_dedup k [c, c'] rs
          split
          · exact ⟨trivial, fun _ fs hfs => (Except.ok.inj hfs).symm.trans hleft⟩
          · exact ⟨trivial, fun _ fs hfs => (Except.ok.inj hfs).symm.trans hleft⟩

theorem survey_sends (k : Container) (rs : List Requirement) :
    (p.survey k rs).Every (Command.Sends (Serves k none))
      fun o => (o.toOption.getD []).Sublist (Requirement.dedup rs) := by
  refine (p.survey_looks k rs).every.mono (fun _ h => h) fun o ⟨seen, ho⟩ => ?_
  cases o with
  | error e => exact List.nil_sublist _
  | ok fs =>
      show fs.Sublist _
      rw [ho fs rfl, ← leftBy_dedup]
      exact leftBy_sublist k seen _

theorem ensureLocked_sends (k : Container) (f : Requirement) :
    (p.ensureLocked k f).Every (Command.Sends (Serves k (some f)))
      fun o => o.toOption.getD [] = [] := by
  have hlist : Serves k (some f) (.list k) := .inl rfl
  have hcreate : Serves k (some f) (.create k f) := .inr ⟨f, rfl, rfl⟩
  have hfailed : ∀ e, (createFailed k f e).Every (Command.Sends (Serves k (some f)))
      fun o => o.toOption.getD [] = [] := fun _ => ⟨trivial, fun _ => ⟨trivial, fun _ => rfl⟩⟩
  have hread : Flow.readCache.Every (Command.Sends (Serves k (some f))) fun _ => True :=
    ⟨trivial, fun _ => trivial⟩
  refine hread.bind fun c _ => ?_
  split
  · exact ⟨trivial, fun _ => rfl⟩
  · refine ((p.persist_sends _ _ hcreate).mono (fun _ h => h.1) fun _ h => h).bind fun r _ => ?_
    cases r with
    | ok record => exact ⟨trivial, fun _ => ⟨trivial, fun _ => ⟨trivial, fun _ => rfl⟩⟩⟩
    | error e =>
        dsimp only
        split
        · refine ⟨trivial, fun _ => ?_⟩
          refine ((p.refresh_sends hlist).mono (fun _ h => h.1) fun _ h => h).bind fun r _ => ?_
          cases r with
          | error e => exact rfl
          | ok _ =>
              refine hread.bind fun c' _ => ?_
              split
              · exact ⟨trivial, fun _ => rfl⟩
              · exact hfailed e
        · exact hfailed e

theorem ensure_sends (k : Container) (f : Requirement) :
    (p.ensure k f).Every (Command.Sends (Serves k (some f))) fun o => o.toOption.getD [] = [] := by
  refine ⟨trivial, fun l => ⟨trivial, fun _ => ?_⟩⟩
  exact (p.ensureLocked_sends k f).bind fun o ho => ⟨trivial, fun _ => ⟨trivial, fun _ => ho⟩⟩

end Provisioner

/-! ## Jobs -/

/-- The function that a thread of a resolve provides, by its number and by what the first thread has
left. -/
def turn (rest : List Requirement) : Nat → Option Requirement
  | 0 => none
  | n + 1 => rest[n]?

/-- What a thread of a resolve leaves for others, by its number: the first leaves first occurrences,
and the others nothing. -/
def Leaves (rs : List Requirement) : Nat → Outcome → Prop
  | 0, o => (o.toOption.getD []).Sublist (Requirement.dedup rs)
  | _ + 1, o => o.toOption.getD [] = []

namespace Job

def serving (k : Container) (rs : List Requirement) (ds : Nat → List Deed) : Judgement σ where
  holds rest n x := x.Every (Command.Sends (Serves k (turn rest n))) (Leaves rs n) ∧
    ∀ r, Deed.sent r ∈ ds n → Serves k (turn rest n) r
  first h := h
  closed h ho := h.1.ended ho

def Creates (p : Provisioner) (place : Place) (k : Container) (rs : List Requirement)
    (ds : Nat → List Deed) (t : Job σ) : Prop :=
  t.Holds p k place (serving k rs ds)

variable {p : Provisioner} {place : Place} {k : Container} {rs : List Requirement}
  {ds : Nat → List Deed} {t : Job σ}

theorem Creates.rest_sublist (h : t.Creates p place k rs ds) :
    t.rest.Sublist (Requirement.dedup rs) := by
  cases hrest : t.rest with
  | nil => exact List.nil_sublist _
  | cons r rest =>
      obtain ⟨x, hx, ho⟩ := outcome?_of_mem_rest (t := t) (r := r) (hrest ▸ List.mem_cons_self)
      rw [← hrest]
      exact (h.threads 0 x hx).1.ended ho

end Job

namespace Pool

variable {p : Provisioner} {place : Place} {k : Container} {rs : List Requirement} {n i : Nat}
  {ds : Chronicle} {p₀ pool pool' : Pool σ} {others : World σ → World σ → Prop}

/-- Whichever thread goes on, it sends what serves its turn, and the others send nothing. -/
theorem Goes.creates {id : ThreadId} {more : List Deed} (hgoes : pool.Goes catalog id more pool')
    (hsilent : ∀ id, pool.thread? id = none → deedsOf id ds = [])
    (h : ∀ t, pool.jobs[i]? = some t → t.Creates p place k rs fun n => deedsOf ⟨i, n⟩ ds)
    {t' : Job σ} (ht' : pool'.jobs[i]? = some t') :
    t'.Creates p place k rs fun n => deedsOf ⟨i, n⟩ (ds ++ mark id more) := by
  refine hgoes.holds ht' h (fun hx => ⟨hx.1.grant, hx.2⟩)
    (fun hne hx => ⟨hx.1, by simpa only [deedsOf_of_ne hne] using hx.2⟩)
    (fun {rest x flow w now ds' q} hi hx hwake hadv hmore _ => ?_)
    (fun {rest n f} hne hnew hf => ?_)
  · subst hi hmore
    obtain ⟨hpause, hsent⟩ := hadv.every (hx.1.wake hwake)
    refine ⟨hpause, fun r hr => ?_⟩
    dsimp only at hr
    rw [deedsOf_self, List.mem_append, List.mem_append] at hr
    rcases hr with hr | hr | hr
    · exact hx.2 r hr
    · obtain ⟨y, -, hy⟩ := List.mem_map.1 hr
      cases hy
    · exact hsent r hr
  · refine ⟨?_, fun r hr => ?_⟩
    · show (p.ensure k f).Every (Command.Sends (Serves k rest[n]?)) _
      rw [hf]
      exact p.ensure_sends k f
    · dsimp only at hr
      rw [deedsOf_of_ne hne, hsilent _ hnew] at hr
      cases hr

/-- In every run a resolve sends what serves the turns of its threads. -/
theorem Run.creates (hrun : Run catalog others p₀ n ds pool)
    (hi : p₀.jobs[i]? = some (Errand.job p place (.resolve k rs))) {t : Job σ}
    (ht : pool.jobs[i]? = some t) : t.Creates p place k rs fun n => deedsOf ⟨i, n⟩ ds := by
  induction hrun generalizing t with
  | start =>
      obtain rfl : Errand.job p place (.resolve k rs) = t := Option.some.inj (hi.symm.trans ht)
      exact Job.holds_start ⟨p.survey_sends k rs, fun _ hr => nomatch hr⟩
  | goes hrun hgoes ih => exact hgoes.creates (fun _ => hrun.silent) (fun t ht => ih ht) ht
  | others _ _ ih => exact ih ht

end Pool

/-! ## What is asked for in the end -/

theorem Persisted.sent_mem {r : Request} {left : Nat} {ds : List Deed} {reply : Reply r}
    (h : Persisted r left ds reply) : Deed.sent r ∈ ds := by
  have htry : ∀ reply : Reply r, Deed.sent r ∈ tryDeeds r reply :=
    fun _ => List.mem_append_right _ List.mem_cons_self
  cases h with
  | definite => exact htry reply
  | exhausted => exact List.mem_append_left _ (htry _)
  | again => exact List.mem_append_left _ (htry _)

/-- A thread that provides a function asks for its creation, unless it asks for nothing. -/
theorem Provided.asks {p : Provisioner} {k : Container} {f : Requirement} {ds : List Deed}
    {o : Outcome} (h : Provided p k f ds o) :
    Deed.sent (.create k f) ∈ ds ∨ ∀ r, Deed.sent r ∉ ds := by
  cases h with
  | found => exact .inr fun r hr => nomatch List.mem_singleton.1 hr
  | created hp => exact .inl (List.mem_append_left _ hp.sent_mem)
  | refused hp => exact .inl (List.mem_append_left _ hp.sent_mem)
  | recovered _ hp => exact .inl (List.mem_append_left _ hp.sent_mem)
  | unseen _ hp => exact .inl (List.mem_append_left _ hp.sent_mem)
  | unlisted hp => exact .inl (List.mem_append_left _ hp.sent_mem)

/-- In a resolve that is finished, every function left has been seen to by its own thread. -/
theorem Job.Does.asked {S : Surroundings} {p : Provisioner} {place : Place} {k : Container}
    {rs : List Requirement} {start c : Cache} {ds : Nat → List Deed} {t : Job σ}
    (h : t.Does S p place (.resolve k rs) start ds c) (hf : t.isFinished = true) {n : Nat}
    {f : Requirement} (hn : t.rest[n]? = some f) :
    Deed.sent (.create k f) ∈ ds (n + 1) ∨ ∀ r, Deed.sent r ∉ ds (n + 1) := by
  obtain ⟨hlen, hended⟩ := h.accounted.ended_of_finished hf
  have hlt : n + 1 < t.threads.length := by
    have := (List.getElem?_eq_some_iff.1 hn).1
    omega
  have hx := List.getElem?_eq_getElem hlt
  obtain ⟨o, ho⟩ := hended _ _ hx
  obtain ⟨g, hg, hprovided, -⟩ := (h.thread hx).ended ho
  obtain rfl : f = g := Option.some.inj (hn.symm.trans hg)
  exact hprovided.asks

/-- Of the requirements with one id the first is kept, which can be done twice, in parts, and before
or after a cache leaves out what it knows. So a survey leaves the first occurrences that its looks
into the cache have not found. However the threads of a resolve go on, and whatever others do
meanwhile, what is left has distinct ids in the order of first occurrence, and a thread asks for
nothing but listings and the function whose turn is its own. In the end each function left has been
asked for, unless its thread found it created already and asked for nothing. -/
theorem resolve_creates_first_occurrences (xs ys : List Requirement) (c : Cache) (k : Container) :
    Requirement.FirstOfEach xs (Requirement.dedup xs) ∧
    Requirement.dedup (Requirement.dedup xs) = Requirement.dedup xs ∧
    Requirement.dedup (xs ++ ys) = Requirement.dedup xs ++
      (Requirement.dedup ys).filter (fun r => r.id ∉ Requirement.ids xs) ∧
    c.missing k (Requirement.dedup xs) = Requirement.dedup (c.missing k xs) ∧
    (∀ p : Provisioner, (p.survey k xs).Looks (Serves k none)
      (fun seen o => ∀ fs, o = .ok fs → fs = Requirement.dedup (leftBy k seen xs)) []) ∧
    ∀ (σ : Type) (catalog : Catalog σ) (p : Provisioner) (place : Place) (es : List Errand)
      (w : World σ) (others : World σ → World σ → Prop) (n : Nat) (ds : Chronicle)
      (pool : Pool σ), Pool.Run catalog others ⟨w, es.map (Errand.job p place)⟩ n ds pool →
      ∀ (i : Nat) (t : Job σ), es[i]? = some (.resolve k xs) → pool.jobs[i]? = some t →
        t.rest.Sublist (Requirement.dedup xs) ∧ (Requirement.ids t.rest).Nodup ∧
        (∀ n r, Deed.sent r ∈ deedsOf ⟨i, n⟩ ds → Serves k (turn t.rest n) r) ∧
        (t.isFinished = true → ∀ n f, t.rest[n]? = some f →
          Deed.sent (.create k f) ∈ deedsOf ⟨i, n + 1⟩ ds ∨
            ∀ r, Deed.sent r ∉ deedsOf ⟨i, n + 1⟩ ds) := by
  have hfirst := Requirement.firstOfEach_dedup xs
  refine ⟨hfirst, Requirement.dedup_dedup xs, Requirement.dedup_append xs ys,
    c.missing_dedup_comm k xs, fun p => p.survey_looks k xs, ?_⟩
  intro σ catalog p place es w others n ds pool hrun i t he ht
  have hi : (es.map (Errand.job p place) : List (Job σ))[i]? =
      some (Errand.job p place (.resolve k xs)) := by simp [he]
  have hjob := hrun.creates hi ht
  have hdoes := hrun.does (Pool.surrounded_any catalog others _) hi ht
  refine ⟨hjob.rest_sublist, (hjob.rest_sublist.map _).nodup hfirst.nodup, fun n r hr => ?_,
    fun hf n f hn => hdoes.asked hf hn⟩
  cases hx : t.threads[n]? with
  | none =>
      rw [hrun.silent ((Pool.thread?_eq ht n).trans hx)] at hr
      cases hr
  | some x => exact (hjob.threads n x hx).2 r hr

end DocQuery.Provision
