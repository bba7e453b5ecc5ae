import DocQuery.Proofs.Provision.Requests
import DocQuery.Proofs.Provision.Rounds

/-! # What a resolve does to a memory

A resolve that runs by itself against a memory asks for nothing that is known, lists the container
once if something is not, and creates each function that is unknown and unregistered once, in the
order in which the functions were first required. What the memory holds and what the cache knows
afterwards depends neither on how many creates may run at a time nor on how long a request takes.
-/

namespace DocQuery

open Catalog (Memory Reply Request)

namespace Provision

variable {place : Place} {self : ThreadId} {w : World (Memory × List Request)} {r : Request}

def World.send (w : World (Memory × List Request)) (r : Request) : World (Memory × List Request) :=
  { w with catalog := ({ w.catalog.1 with calls := w.catalog.1.calls.count r }, r :: w.catalog.2) }

def World.serve (w : World (Memory × List Request)) (r : Request) : World (Memory × List Request) :=
  let e := w.catalog.1.serve r
  { w with catalog := (e.state, w.catalog.2), log := e.events.reverse ++ w.log }

namespace Plan

variable {c : Plan (Memory × List Request)}

end Plan

/-! ## Listing and creating -/

/-- Functions to be created: their ids are distinct, and neither known nor registered. -/
structure Wanted (c : Cache) (k : Container) (fs : List Record) (new : List Requirement) :
    Prop where
  nodup : (new.map (·.id)).Nodup
  unknown : ∀ f ∈ new, c.has k f.id = false
  unregistered : ∀ f ∈ new, ∀ x ∈ fs, x.id ≠ f.id

namespace Wanted

variable {c : Cache} {k : Container} {fs : List Record} {new : List Requirement}
  {i n : Nat} {f f' : Requirement}

theorem id_ne (h : Wanted c k fs new) (hi : new[i]? = some f) (hn : new[n]? = some f')
    (hne : i ≠ n) : f.id ≠ f'.id := by
  have hids : ∀ {i n : Nat} {f f' : Requirement}, new[i]? = some f → new[n]? = some f' → i < n →
      f.id ≠ f'.id := by
    intro i n f f' hi hn hlt
    obtain ⟨hilt, rfl⟩ := List.getElem?_eq_some_iff.1 hi
    obtain ⟨hnlt, rfl⟩ := List.getElem?_eq_some_iff.1 hn
    have hdistinct := List.pairwise_iff_getElem.1 h.nodup i n (by simpa using hilt)
      (by simpa using hnlt) hlt
    simpa using hdistinct
  rcases Nat.lt_or_gt_of_ne hne with hlt | hgt
  · exact hids hi hn hlt
  · exact (hids hn hi hgt).symm

theorem fresh (h : Wanted c k fs new) (hn : new[n]? = some f) (hi : i ≤ n) :
    ∀ x ∈ fs ++ (new.take i).map (Memory.recordOf k.link), x.id ≠ f.id := by
  intro x hx
  rcases List.mem_append.1 hx with hx | hx
  · exact h.unregistered f (List.mem_of_getElem? hn) x hx
  · obtain ⟨f', hf', rfl⟩ := List.mem_map.1 hx
    obtain ⟨m, hm⟩ := List.mem_iff_getElem?.1 hf'
    rw [List.getElem?_take] at hm
    split at hm
    · exact h.id_ne hm hn (by omega)
    · cases hm

end Wanted

/-- How far a resolve has come that lists a container and creates what is wanted there. -/
structure Creating (place : Place) (k : Container) (fs : List Record) (new : List Requirement)
    (start : World (Memory × List Request)) (ended sent : Nat)
    (w : World (Memory × List Request)) : Prop where
  latency : w.catalog.1.latency = start.catalog.1.latency
  requests : w.catalog.2 =
    ((Request.list k :: new.map (.create k)).take sent).reverse ++ start.catalog.2
  listed : w.catalog.1.collections.get? k.link =
    some (fs ++ (new.take (ended - 1)).map (Memory.recordOf k.link))
  links : ∀ link, link ≠ k.link →
    w.catalog.1.collections.get? link = start.catalog.1.collections.get? link
  known : (w.caches place.cache).functions k =
    if ended = 0 then (start.caches place.cache).functions k
    else ((start.caches place.cache).functions k).putAll
      (fs ++ (new.take (ended - 1)).map (Memory.recordOf k.link))
  containers : ∀ k', k' ≠ k →
    (w.caches place.cache).functions k' = (start.caches place.cache).functions k'
  caches : ∀ i, i ≠ place.cache → w.caches i = start.caches i
  calm : (w.locks place.site).Calm
  free : ∀ (i : Nat) (f : Requirement), new[i]? = some f → sent ≤ i + 1 →
    (w.locks place.site).serving.get? (k, f.id) = none

namespace Creating

variable {k : Container} {fs : List Record} {new : List Requirement} {a g n : Nat}
  {w₀ w₁ : World (Memory × List Request)} {f : Requirement} {link : String}

theorem hosted (h : Creating place (.collection link) fs new w₀ a g w) :
    w.catalog.1.hosted (.collection link) =
      .ok (fs ++ (new.take (a - 1)).map (Memory.recordOf link)) :=
  Memory.hosted_eq_ok.2 ⟨link, rfl, h.listed⟩

theorem unknown (h : Creating place k fs new w₀ a g w)
    (hwanted : Wanted (w₀.caches place.cache) k fs new) (hn : new[n]? = some f)
    (ha : a ≤ n + 1) : (w.caches place.cache).has k f.id = false := by
  have hstart := hwanted.unknown f (List.mem_of_getElem? hn)
  rw [Cache.has] at hstart ⊢
  rw [h.known]
  split
  · exact hstart
  · rw [Bool.eq_false_iff, Ne, FunctionCache.has_putAll, hstart]
    rintro (h | ⟨x, hx, hid⟩)
    · cases h
    · exact hwanted.fresh hn (by omega) x hx hid

theorem start (hlocks : (w.locks place.site).InOrder fun _ => .idle)
    (hlisted : w.catalog.1.collections.get? k.link = some fs) :
    Creating place k fs new w 0 0 w where
  latency := rfl
  requests := rfl
  listed := by simpa using hlisted
  links := fun _ _ => rfl
  known := rfl
  containers := fun _ _ => rfl
  caches := fun _ _ => rfl
  calm := hlocks.calm
  free := by
    intro i f _ _
    rw [hlocks.serving_nil fun _ => rfl]
    rfl

theorem send (h : Creating place k fs new w₀ a g w)
    (hr : (Request.list k :: new.map (.create k))[g]? = some r)
    (hcatalog : w₁.catalog = w.catalog) (hcaches : w₁.caches = w.caches)
    (hcalm : (w₁.locks place.site).Calm)
    (hfree : ∀ (i : Nat) (f : Requirement), new[i]? = some f → g + 1 ≤ i + 1 →
      (w₁.locks place.site).serving.get? (k, f.id) = (w.locks place.site).serving.get? (k, f.id)) :
    Creating place k fs new w₀ a (g + 1) (w₁.send r) where
  latency := by
    show w₁.catalog.1.latency = _
    rw [hcatalog, h.latency]
  requests := by
    show r :: w₁.catalog.2 = _
    rw [hcatalog, h.requests, List.take_add_one, hr]
    simp
  listed := by
    show w₁.catalog.1.collections.get? k.link = _
    rw [hcatalog, h.listed]
  links := by
    intro link hlink
    show w₁.catalog.1.collections.get? link = _
    rw [hcatalog, h.links link hlink]
  known := by
    show (w₁.caches place.cache).functions k = _
    rw [hcaches, h.known]
  containers := by
    intro k' hk'
    show (w₁.caches place.cache).functions k' = _
    rw [hcaches, h.containers k' hk']
  caches := by
    intro i hi
    show w₁.caches i = _
    rw [hcaches, h.caches i hi]
  calm := hcalm
  free := fun i f hf hi => (hfree i f hf hi).trans (h.free i f hf (by omega))

/-- A function that is wanted can be registered at its turn. -/
theorem serve_create (h : Creating place (.collection link) fs new w₀ (n + 1) g w)
    (hwanted : Wanted (w₀.caches place.cache) (.collection link) fs new)
    (hn : new[n]? = some f) :
    (w.catalog.1.serve (.create (.collection link) f)).value =
        .ok (Memory.recordOf link f) ∧
      (w.catalog.1.serve (.create (.collection link) f)).state =
        w.catalog.1.setFunctions (.collection link)
          (fs ++ (new.take (n + 1)).map (Memory.recordOf link)) := by
  have hregister := Memory.register_of_free h.hosted (hwanted.fresh hn (Nat.le_refl n))
  rw [Memory.serve, hregister]
  refine ⟨rfl, ?_⟩
  rw [List.take_add_one, hn]
  simp [Container.link]

theorem create (h : Creating place (.collection link) fs new w₀ (n + 1) g w)
    (hwanted : Wanted (w₀.caches place.cache) (.collection link) fs new)
    (hn : new[n]? = some f) (hg : n + 1 < g) {w' : World (Memory × List Request)}
    (hcatalog : w'.catalog = (w.serve (.create (.collection link) f)).catalog)
    (hcaches : w'.caches =
      (w.changeCache place.cache (.put (.collection link) (Memory.recordOf link f))).caches)
    (haside : w.LocksAside place.site (.collection link, f.id) w') :
    Creating place (.collection link) fs new w₀ (n + 2) g w' := by
  have hstate : w'.catalog = (w.catalog.1.setFunctions (.collection link)
      (fs ++ (new.take (n + 1)).map (Memory.recordOf link)), w.catalog.2) :=
    hcatalog.trans (congrArg (·, w.catalog.2) (h.serve_create hwanted hn).2)
  have hcache : w'.caches place.cache = (w.caches place.cache).apply
      (.put (.collection link) (Memory.recordOf link f)) := by
    rw [hcaches]
    exact if_pos rfl
  refine ⟨hstate ▸ h.latency, hstate ▸ h.requests, ?_, ?_, ?_, ?_, ?_, haside.1, ?_⟩
  · rw [hstate, Memory.get?_setFunctions, if_pos rfl]
    rfl
  · intro link' hlink
    rw [hstate, Memory.get?_setFunctions, if_neg hlink, h.links link' hlink]
  · rw [hcache, Cache.apply, Cache.functions_update, if_pos rfl, h.known, if_neg (by omega),
      if_neg (by omega), Nat.add_sub_cancel, show n + 2 - 1 = n + 1 by omega, List.take_add_one, hn]
    simp [FunctionCache.putAll, Container.link]
  · intro k' hk'
    rw [hcache, Cache.apply, Cache.functions_update, if_neg hk', h.containers k' hk']
  · intro i hi
    rw [hcaches, ← h.caches i hi]
    exact if_neg hi
  · intro i f' hf' hi
    have hne : f'.id ≠ f.id := hwanted.id_ne hf' hn (by omega)
    rw [haside.2 _ fun he => hne (congrArg Prod.snd he)]
    exact h.free i f' hf' hi

end Creating

/-! ## The plans of a resolve -/

section Plans

variable {k : Container} {fs : List Record} {rs unknown new : List Requirement} {link : String}
  {start : World (Memory × List Request)}

def creating (p : Provisioner) (place : Place) (k : Container) (rs : List Requirement)
    (fs : List Record) (new : List Requirement) (start : World (Memory × List Request)) :
    Plan (Memory × List Request) where
  provisioner := p
  container := k
  place := place
  first := p.survey k rs
  outcome := .ok new
  delay := start.catalog.1.latency
  Holds := Creating place k fs new start

end Plans

/-! ## The effect of a resolve -/

/-- What is left of the world by a resolve that listed `fs` in a container and created `new`: the
requests were sent in order, the new functions stand behind the old ones, and the cache knows all of
them, the last of each id, besides what it knew before. -/
structure Provides (place : Place) (k : Container) (fs : List Record) (new : List Requirement)
    (w w' : World (Memory × List Request)) : Prop where
  requests : w'.catalog.2 = (Request.list k :: new.map (.create k)).reverse ++ w.catalog.2
  listed : w'.catalog.1.collections.get? k.link = some (fs ++ new.map (Memory.recordOf k.link))
  links : ∀ link, link ≠ k.link →
    w'.catalog.1.collections.get? link = w.catalog.1.collections.get? link
  known : ∀ id, (w'.caches place.cache).get? k id =
    ((fs ++ new.map (Memory.recordOf k.link)).reverse.find? (·.id = id)).or
      ((w.caches place.cache).get? k id)
  containers : ∀ k', k' ≠ k →
    (w'.caches place.cache).functions k' = (w.caches place.cache).functions k'
  caches : ∀ i, i ≠ place.cache → w'.caches i = w.caches i

/-- What a resolve comes to whose functions `unknown` are not known: its answer, and the world that
it leaves. -/
inductive Resolved (place : Place) (k : Container) (unknown : List Requirement)
    (w : World (Memory × List Request)) :
    Except Service.Error Service.Answer → World (Memory × List Request) → Prop
  | hit {w' : World (Memory × List Request)} : unknown = [] → w'.catalog = w.catalog →
      w'.caches = w.caches →
      w'.metrics = (fun i => if i = place.site then
        { w.metrics i with fastPathHits := (w.metrics i).fastPathHits + 1 } else w.metrics i) →
      Resolved place k unknown w (.ok .done) w'
  | unsupported {link : String} {w' : World (Memory × List Request)} : unknown ≠ [] →
      k = .database link → w'.catalog = w.catalog → w'.caches = w.caches →
      Resolved place k unknown w
        (.error (.provision (.unsupportedContainer k (unknown.map (·.id))))) w'
  | unlisted {link : String} {w' : World (Memory × List Request)} : unknown ≠ [] →
      k = .collection link → w.catalog.1.collections.get? link = none →
      w'.catalog.2 = .list k :: w.catalog.2 →
      w'.catalog.1.collections = w.catalog.1.collections → w'.caches = w.caches →
      Resolved place k unknown w (.error (.provision (.list k (.notFound k.display)))) w'
  | provided {link : String} {fs : List Record} {w' : World (Memory × List Request)} :
      unknown ≠ [] → k = .collection link → w.catalog.1.collections.get? link = some fs →
      Provides place k fs (unknown.filter fun f => fs.all (·.id ≠ f.id)) w w' →
      Resolved place k unknown w (.ok .done) w'

/-- In a collection that exists, what is unknown is provided. -/
theorem Resolved.of_listed {link : String} {unknown : List Requirement} {fs : List Record}
    {w w' : World (Memory × List Request)} {answer : Except Service.Error Service.Answer}
    (h : Resolved place (.collection link) unknown w answer w') (hne : unknown ≠ [])
    (hlisted : w.catalog.1.collections.get? link = some fs) :
    answer = .ok .done ∧ Provides place (.collection link) fs
      (unknown.filter fun f => fs.all (·.id ≠ f.id)) w w' := by
  cases h with
  | hit hempty => exact absurd hempty hne
  | unsupported _ hk => cases hk
  | unlisted _ hk hnone =>
      obtain rfl := Container.collection.inj hk
      rw [hlisted] at hnone
      cases hnone
  | provided _ hk hsome hprovides =>
      obtain rfl := Container.collection.inj hk
      obtain rfl := Option.some.inj (hlisted.symm.trans hsome)
      exact ⟨rfl, hprovides⟩

theorem Plan.AtRest.answer {c : Plan (Memory × List Request)} {s : Service}
    {rs : List Requirement} {k : Container} {w : World (Memory × List Request)} {now fuel : Nat}
    (hjob : c.job = s.job (.resolve rs k))
    (h : c.AtRest ((Timed.start w now [c.job]).run Memory.catalog.recorded fuel)) :
    let run := Service.runAll Memory.catalog.recorded fuel [(s, .resolve rs k)] w now
    run.1 = [s.answer (.resolve rs k) (c.outcome.map fun _ => ())] ∧
      run.2.pool.jobs.all Job.isFinished = true ∧
      c.Holds (c.rest.length + 1) (c.rest.length + 1) run.2.pool.world := by
  rw [hjob] at h
  obtain ⟨j, hj, hfinished, hresult, hholds⟩ := h
  simp only [Service.runAll, List.map_cons, List.map_nil]
  rw [hj, ← hresult]
  exact ⟨rfl, by simpa using hfinished, hholds⟩

end Provision
end DocQuery
