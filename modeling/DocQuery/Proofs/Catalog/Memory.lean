import DocQuery.Catalog.Memory
import DocQuery.Proofs.Catalog.Phases

/-! # What a memory holds

A create adds a function at the end of its collection unless one with the same id is there, and a
listing changes nothing. So as long as nothing is deleted, collections only grow, and no id comes to
stand in a collection twice.
-/

namespace DocQuery.Catalog

namespace Memory

variable {m m' m'' : Memory} {k : Container} {f : Requirement} {link id : String}

def Registered (m : Memory) (link id : String) : Prop := ∃ r ∈ m.functions link, r.id = id

def Distinct (m : Memory) : Prop := ∀ link, ((m.functions link).map (·.id)).Nodup

/-- With distinct ids, a function is the only one with its id. -/
theorem Distinct.filter_eq (h : m.Distinct) {r : Record} (hr : r ∈ m.functions link) :
    (m.functions link).filter (·.id = r.id) = [r] := by
  have hd := h link
  generalize m.functions link = rs at hr hd
  induction rs with
  | nil => simp at hr
  | cons x rs ih =>
      obtain ⟨hx, hd⟩ := List.nodup_cons.1 hd
      rcases List.mem_cons.1 hr with rfl | hm
      · have hnone : rs.filter (·.id = r.id) = [] := List.filter_eq_nil_iff.2 fun y hy he =>
          hx (List.mem_map.2 ⟨y, hy, of_decide_eq_true he⟩)
        simp [hnone]
      · have hne : x.id ≠ r.id := fun he => hx (List.mem_map.2 ⟨r, hm, he.symm⟩)
        simp [hne, ih hm hd]

theorem not_registered (h : ∀ r ∈ m.functions link, r.id ≠ id) : ¬m.Registered link id := by
  rintro ⟨r, hr, hid⟩
  exact h r hr hid

theorem hosted_eq_ok {rs : List Record} :
    m.hosted k = .ok rs ↔ ∃ link, k = .collection link ∧ m.collections.get? link = some rs := by
  cases k with
  | database link => simp [hosted]
  | collection link => cases h : m.collections.get? link <;> simp [hosted, h]

theorem functions_congr (h : m.collections = m'.collections) : m.functions = m'.functions := by
  funext link
  simp only [functions, h]

theorem functions_of_hosted {rs : List Record} (h : m.hosted k = .ok rs) :
    m.functions k.link = rs := by
  obtain ⟨link, rfl, hg⟩ := hosted_eq_ok.1 h
  simp [functions, Container.link, hg]

def Has (m : Memory) (link : String) : Prop := m.collections.contains link = true

theorem has_iff_exists : m.Has link ↔ ∃ rs, m.collections.get? link = some rs :=
  Option.isSome_iff_exists

/-- A container is no collection, or is not there, or holds functions. -/
theorem hosted_cases (m : Memory) (k : Container) :
    (∃ link, k = .database link ∧ m.hosted k = .error (.unsupportedContainer k)) ∨
    (∃ link, k = .collection link ∧ ¬m.Has link ∧ m.hosted k = .error (.notFound k.display)) ∨
    (∃ link, k = .collection link ∧ m.Has link ∧ m.hosted k = .ok (m.functions link)) := by
  cases k with
  | database link => exact Or.inl ⟨link, rfl, rfl⟩
  | collection link =>
      cases hg : m.collections.get? link with
      | none =>
          have hnot : ¬m.Has link := by simp [has_iff_exists, hg]
          exact Or.inr (Or.inl ⟨link, rfl, hnot, by simp [hosted, hg]⟩)
      | some rs =>
          have hhas : m.Has link := has_iff_exists.2 ⟨rs, hg⟩
          exact Or.inr (Or.inr ⟨link, rfl, hhas, by simp [hosted, functions, hg]⟩)

theorem get?_setFunctions (m : Memory) (k : Container) (rs : List Record) (link : String) :
    (m.setFunctions k rs).collections.get? link =
      if link = k.link then some rs else m.collections.get? link :=
  Entries.get?_insert _ _ _ _

theorem functions_ofLinks (links : List String) (latency : Nat) (link : String) :
    (ofLinks links latency).functions link = [] := by
  have hfold : ∀ es : Entries String (List Record), (es.get? link).getD [] = [] →
      (((links.map (·, [])).foldl (fun es p => es.insert p.1 p.2) es).get? link).getD [] = [] := by
    induction links with
    | nil => exact fun _ h => h
    | cons l links ih =>
        intro es h
        refine ih _ ?_
        rw [Entries.get?_insert]
        split
        · rfl
        · exact h
  exact hfold [] rfl

theorem distinct_ofLinks (links : List String) (latency : Nat) :
    (ofLinks links latency).Distinct := by
  intro link
  rw [functions_ofLinks]
  exact List.nodup_nil

theorem registered_congr (h : m.collections = m'.collections) :
    m.Registered link id ↔ m'.Registered link id := by
  rw [Registered, Registered, functions_congr h]

theorem registered_setFunctions {rs : List Record} (hk : m.hosted k = .ok rs) (r : Record) :
    (m.setFunctions k (rs ++ [r])).Registered link id ↔
      m.Registered link id ∨ (link = k.link ∧ r.id = id) := by
  have hrs := functions_of_hosted hk
  by_cases hlink : link = k.link
  · subst hlink
    simp [Registered, functions, get?_setFunctions, ← hrs, or_and_right, exists_or]
  · simp [Registered, functions, get?_setFunctions, hlink]

/-! ## Growing -/

/-- Collections stay, and functions are added at their ends only, under new ids. -/
structure Grows (m m' : Memory) : Prop where
  keeps : ∀ {link rs}, m.collections.get? link = some rs →
    ∃ rs', m'.collections.get? link = some (rs ++ rs')
  distinct : m.Distinct → m'.Distinct

namespace Grows

theorem of_collections_eq (h : m'.collections = m.collections) : m.Grows m' where
  keeps := fun hg => ⟨[], by rw [h, hg, List.append_nil]⟩
  distinct := by
    intro hd link
    rw [functions_congr h]
    exact hd link

theorem refl (m : Memory) : m.Grows m := of_collections_eq rfl

theorem trans (h : m.Grows m') (h' : m'.Grows m'') : m.Grows m'' where
  keeps := by
    intro link rs hg
    obtain ⟨rs', hg'⟩ := h.keeps hg
    obtain ⟨rs'', hg''⟩ := h'.keeps hg'
    exact ⟨rs' ++ rs'', by rw [hg'', List.append_assoc]⟩
  distinct := fun hd => h'.distinct (h.distinct hd)

theorem mem_functions (h : m.Grows m') {r : Record} (hr : r ∈ m.functions link) :
    r ∈ m'.functions link := by
  cases hg : m.collections.get? link with
  | none => simp [functions, hg] at hr
  | some rs =>
      obtain ⟨rs', hg'⟩ := h.keeps hg
      simp only [functions, hg, hg', Option.getD_some] at hr ⊢
      exact List.mem_append_left rs' hr

theorem registered (h : m.Grows m') (hr : m.Registered link id) : m'.Registered link id := by
  obtain ⟨r, hr, hid⟩ := hr
  exact ⟨r, h.mem_functions hr, hid⟩

theorem hosted (h : m.Grows m') {rs : List Record} (hk : m.hosted k = .ok rs) :
    ∃ rs', m'.hosted k = .ok rs' := by
  obtain ⟨link, rfl, hg⟩ := hosted_eq_ok.1 hk
  obtain ⟨rs', hg'⟩ := h.keeps hg
  exact ⟨rs ++ rs', hosted_eq_ok.2 ⟨link, rfl, hg'⟩⟩

theorem setFunctions {rs : List Record} (hk : m.hosted k = .ok rs) {r : Record}
    (hr : ∀ x ∈ rs, x.id ≠ r.id) : m.Grows (m.setFunctions k (rs ++ [r])) := by
  obtain ⟨link, rfl, hg⟩ := hosted_eq_ok.1 hk
  constructor
  · intro link' rs' hg'
    rw [get?_setFunctions]
    split
    · rename_i he
      have he' : link' = link := he
      subst he'
      obtain rfl : rs = rs' := Option.some.inj (hg.symm.trans hg')
      exact ⟨[r], rfl⟩
    · exact ⟨[], by rw [hg', List.append_nil]⟩
  · intro hd link'
    have hd' := hd link'
    simp only [functions, get?_setFunctions]
    split
    · rename_i he
      have he' : link' = link := he
      subst he'
      simp only [functions, hg, Option.getD_some] at hd'
      simp only [Option.getD_some, List.map_append, List.map_cons, List.map_nil]
      refine List.nodup_append.2 ⟨hd', by simp, ?_⟩
      intro a ha b hb hab
      obtain ⟨x, hx, rfl⟩ := List.mem_map.1 ha
      exact hr x hx (hab.trans (List.mem_singleton.1 hb))
    · exact hd'

end Grows

theorem register_of_free {rs : List Record} (hk : m.hosted k = .ok rs)
    (hfree : ∀ x ∈ rs, x.id ≠ f.id) :
    m.register k f = .ok (recordOf k.link f, m.setFunctions k (rs ++ [recordOf k.link f])) := by
  have hany : rs.any (·.id = f.id) = false := by simpa using hfree
  simp [register, hk, hany, bind, Except.bind, pure, Except.pure]

/-- What comes of registering a function: the container cannot be used, or the id is taken, or the
function stands at the end of the collection. -/
theorem register_cases (m : Memory) (k : Container) (f : Requirement) :
    (∃ e, m.hosted k = .error e ∧ m.register k f = .error e) ∨
    (∃ rs, m.hosted k = .ok rs ∧ (∃ r ∈ rs, r.id = f.id) ∧
      m.register k f = .error (.conflict k f.id)) ∨
    (∃ rs, m.hosted k = .ok rs ∧ (∀ x ∈ rs, x.id ≠ f.id) ∧
      m.register k f = .ok (recordOf k.link f, m.setFunctions k (rs ++ [recordOf k.link f]))) := by
  cases hk : m.hosted k with
  | error e => exact Or.inl ⟨e, rfl, by simp [register, hk, bind, Except.bind]⟩
  | ok rs =>
      by_cases htaken : ∃ r ∈ rs, r.id = f.id
      · have hany : rs.any (·.id = f.id) = true := by simpa using htaken
        exact Or.inr (Or.inl ⟨rs, rfl, htaken, by simp [register, hk, hany, bind, Except.bind]⟩)
      · have hfree : ∀ x ∈ rs, x.id ≠ f.id := by simpa using htaken
        exact Or.inr (Or.inr ⟨rs, rfl, hfree, register_of_free hk hfree⟩)

theorem register_eq_ok {r : Record} (h : m.register k f = .ok (r, m')) :
    ∃ rs, m.hosted k = .ok rs ∧ (∀ x ∈ rs, x.id ≠ f.id) ∧ r = recordOf k.link f ∧
      m' = m.setFunctions k (rs ++ [r]) := by
  rcases register_cases m k f with ⟨_, -, hr⟩ | ⟨_, -, -, hr⟩ | ⟨rs, hk, hfree, hr⟩
  · cases h.symm.trans hr
  · cases h.symm.trans hr
  · obtain ⟨rfl, rfl⟩ := Prod.mk.inj (Except.ok.inj (h.symm.trans hr))
    exact ⟨rs, hk, hfree, rfl, rfl⟩

def unknownId (k : Container) (id : String) : String := "function `" ++ id ++ "` in " ++ k.display

/-- What comes of removing a function: the container cannot be used, or the function is not there,
or all functions with the id are gone. -/
theorem unregister_cases (m : Memory) (k : Container) (id : String) :
    (∃ e, m.hosted k = .error e ∧ m.unregister k id = .error e) ∨
    (∃ rs, m.hosted k = .ok rs ∧ (∀ x ∈ rs, x.id ≠ id) ∧
      m.unregister k id = .error (.notFound (unknownId k id))) ∨
    (∃ rs, m.hosted k = .ok rs ∧ (∃ r ∈ rs, r.id = id) ∧
      m.unregister k id = .ok (m.setFunctions k (rs.filter (·.id ≠ id)))) := by
  cases hk : m.hosted k with
  | error e => exact Or.inl ⟨e, rfl, by simp [unregister, hk, bind, Except.bind]⟩
  | ok rs =>
      by_cases htaken : ∃ r ∈ rs, r.id = id
      · have hany : rs.any (·.id = id) = true := by simpa using htaken
        refine Or.inr (Or.inr ⟨rs, rfl, htaken, ?_⟩)
        simp only [unregister, hk, hany, bind, Except.bind, if_true, pure, Except.pure]
      · have hfree : ∀ x ∈ rs, x.id ≠ id := by simpa using htaken
        have hany : rs.any (·.id = id) = false := by simpa using hfree
        refine Or.inr (Or.inl ⟨rs, rfl, hfree, ?_⟩)
        simp only [unregister, hk, hany, bind, Except.bind, Bool.false_eq_true, if_false, unknownId]

theorem Grows.register {r : Record} (h : m.register k f = .ok (r, m')) : m.Grows m' := by
  obtain ⟨rs, hk, hfree, rfl, rfl⟩ := register_eq_ok h
  exact .setFunctions hk hfree

theorem Grows.addCollection (m : Memory) (link : String) : m.Grows (m.addCollection link) := by
  by_cases hc : m.collections.contains link = true
  · rw [Memory.addCollection, if_pos hc]
    exact .refl m
  · rw [Memory.addCollection, if_neg hc]
    have hnone : m.collections.get? link = none := by simpa [Entries.contains] using hc
    constructor
    · intro link' rs hg
      have hne : link' ≠ link := fun he => by simp [he, hnone] at hg
      exact ⟨[], by rw [Entries.get?_insert, if_neg hne, hg, List.append_nil]⟩
    · intro hd link'
      simp only [functions, Entries.get?_insert]
      split
      · exact List.nodup_nil
      · exact hd link'

/-! ## Requests -/

theorem serve_list (m : Memory) (k : Container) :
    (m.serve (.list k)).value = m.hosted k ∧ (m.serve (.list k)).state = m := by
  cases hk : m.hosted k with
  | ok rs =>
      simp only [serve, hk]
      exact ⟨rfl, trivial⟩
  | error e =>
      simp only [serve, hk]
      exact ⟨rfl, trivial⟩

theorem serve_create (m : Memory) (k : Container) (f : Requirement) :
    (∃ e, m.hosted k = .error e ∧ (m.serve (.create k f)).value = .error e ∧
      (m.serve (.create k f)).state = m) ∨
    (∃ rs, m.hosted k = .ok rs ∧ (∃ r ∈ rs, r.id = f.id) ∧
      (m.serve (.create k f)).value = .error (.conflict k f.id) ∧
      (m.serve (.create k f)).state = m) ∨
    (∃ rs, m.hosted k = .ok rs ∧ (∀ x ∈ rs, x.id ≠ f.id) ∧
      (m.serve (.create k f)).value = .ok (recordOf k.link f) ∧
      (m.serve (.create k f)).state = m.setFunctions k (rs ++ [recordOf k.link f])) := by
  rcases register_cases m k f with ⟨e, hk, hr⟩ | ⟨rs, hk, htaken, hr⟩ | ⟨rs, hk, hfree, hr⟩
  · refine Or.inl ⟨e, hk, ?_⟩
    simp only [serve, hr, and_self]
  · refine Or.inr (Or.inl ⟨rs, hk, htaken, ?_⟩)
    simp only [serve, hr, and_self]
  · refine Or.inr (Or.inr ⟨rs, hk, hfree, ?_⟩)
    simp only [serve, hr, and_self]

theorem serve_delete (m : Memory) (k : Container) (id : String) :
    (∃ e, (m.serve (.delete k id)).value = .error e ∧ (m.serve (.delete k id)).state = m) ∨
    (∃ rs, m.hosted k = .ok rs ∧ (m.serve (.delete k id)).value = .ok () ∧
      (m.serve (.delete k id)).state = m.setFunctions k (rs.filter (·.id ≠ id))) := by
  rcases unregister_cases m k id with ⟨e, -, hu⟩ | ⟨_, -, -, hu⟩ | ⟨rs, hk, -, hu⟩
  · refine Or.inl ⟨e, ?_⟩
    simp only [serve, hu, and_self]
  · refine Or.inl ⟨.notFound (unknownId k id), ?_⟩
    simp only [serve, hu, and_self]
  · refine Or.inr ⟨rs, hk, ?_⟩
    simp only [serve, hu, and_self]

end Memory

/-! ## Catalogs that behave as a memory -/

def Memory.Alike (m m' : Memory) : Prop := m'.collections = m.collections

def Memory.Serves (m : Memory) (r : Request) (reply : Reply r) (m' : Memory) : Prop :=
  reply = (m.serve r).value ∧ (m.serve r).state.Alike m'

/-- A catalog that serves every request as a memory does, at one moment between arrival and
departure. -/
def Atomic {σ : Type} (catalog : Catalog σ) (memory : σ → Memory) : Prop :=
  ∀ r, Phased catalog r (fun s s' => (memory s).Alike (memory s'))
    (fun reply s s' => (memory s).Serves r reply (memory s'))
    (fun s s' => (memory s).Alike (memory s'))

/-- A catalog that serves every request as a memory does, and never holds an answer back. -/
def Prompt {σ : Type} (catalog : Catalog σ) (memory : σ → Memory) : Prop :=
  ∀ r, Phased catalog r (fun s s' => (memory s).Alike (memory s'))
    (fun reply s s' => (memory s).Serves r reply (memory s')) (fun _ _ => False)

theorem Prompt.atomic {σ : Type} {catalog : Catalog σ} {memory : σ → Memory}
    (h : Prompt catalog memory) : Atomic catalog memory :=
  fun r => (h r).mono (fun _ _ _ hs => hs) fun _ _ => False.elim

theorem Memory.catalog_prompt : Prompt Memory.catalog fun m => m := by
  intro r now m
  by_cases hl : m.latency = 0
  · dsimp only [Memory.catalog, Memory.submit]
    rw [if_pos hl]
    exact ⟨{ m with calls := m.calls.count r }, rfl, rfl, rfl⟩
  · dsimp only [Memory.catalog, Memory.submit]
    rw [if_neg hl]
    exact Or.inl ⟨rfl, fun s' => ⟨rfl, rfl⟩⟩

theorem Memory.catalog_atomic : Atomic Memory.catalog fun m => m := Memory.catalog_prompt.atomic

/-! ## Catalogs whose answers can be lost -/

/-- An error that says nothing about what has become of a request. -/
def Error.Lost (lossy : Prop) (e : Error) : Prop := lossy ∧ e.isTransient = true

/-- An answer of a memory, or, where answers can be lost, an error in its place; the request may
then have been served or not. -/
def Memory.Answers (lossy : Prop) (m : Memory) (r : Request) (reply : Reply r) (m' : Memory) :
    Prop :=
  m.Serves r reply m' ∨
    (∃ e, e.Lost lossy ∧ reply = .error e) ∧ (m.Alike m' ∨ (m.serve r).state.Alike m')

/-- A catalog that answers every request as a memory does, at one moment between arrival and
departure, but may lose answers. -/
def Serving (lossy : Prop) {σ : Type} (catalog : Catalog σ) (memory : σ → Memory) : Prop :=
  ∀ r, Phased catalog r (fun s s' => (memory s).Alike (memory s'))
    (fun reply s s' => (memory s).Answers lossy r reply (memory s'))
    (fun s s' => (memory s).Alike (memory s'))

theorem Atomic.serving {σ : Type} {catalog : Catalog σ} {memory : σ → Memory}
    (h : Atomic catalog memory) (lossy : Prop) : Serving lossy catalog memory :=
  fun r => (h r).mono (fun _ _ _ hs => Or.inl hs) fun _ _ hs => hs

/-- What a memory answers to a create has the id that was asked for. -/
theorem Memory.Answers.sincere {lossy : Prop} {m m' : Memory} {r : Request} {reply : Reply r}
    (h : m.Answers lossy r reply m') : r.Sincere reply := by
  cases r with
  | list k => trivial
  | delete k id => trivial
  | create k f =>
      rcases h with ⟨rfl, -⟩ | ⟨⟨e, -, rfl⟩, -⟩
      · rcases m.serve_create k f with ⟨e, -, hv, -⟩ | ⟨rs, -, -, hv, -⟩ | ⟨rs, -, -, hv, -⟩
        · rw [hv]
          trivial
        · rw [hv]
          trivial
        · rw [hv]
          exact rfl
      · trivial

theorem Serving.sincere {lossy : Prop} {σ : Type} {catalog : Catalog σ} {memory : σ → Memory}
    (h : Serving lossy catalog memory) : catalog.Sincere :=
  Phased.sincere h fun _ _ _ _ ha => ha.sincere

end DocQuery.Catalog
