import DocQuery.Proofs.Cache
import Mathlib.Data.Set.Card

/-! # A cache as one map

A cache keeps a map for each container, and makes one when it first writes to it. To every reader it
is one map from pairs of a container and an id to records: a container without a map and one with an
empty map are alike.
-/

namespace DocQuery

/-- Records under pairs of a container and an id. -/
abbrev FlatCache := Container × String → Option Record

namespace FlatCache

def empty : FlatCache := fun _ => none

def put (flat : FlatCache) (k : Container) (r : Record) : FlatCache :=
  Function.update flat (k, r.id) (some r)

def apply (flat : FlatCache) : Cache.Change → FlatCache
  | .put k r => flat.put k r
  | .merge k rs => rs.foldl (fun flat r => flat.put k r) flat
  | .forget k id => Function.update flat (k, id) none
  | .resetContainer k => fun key => if key.1 = k then none else flat key
  | .reset => empty

def answer (flat : FlatCache) : Cache.Change → Option Record
  | .put .. => none
  | .merge .. => none
  | .forget k id => flat (k, id)
  | .resetContainer _ => none
  | .reset => none

def support (flat : FlatCache) : Set (Container × String) := { key | (flat key).isSome }

def idsOf (flat : FlatCache) (k : Container) : Set String := { id | (flat (k, id)).isSome }

/-- Finitely many records, each under its own id. -/
structure Proper (flat : FlatCache) : Prop where
  finite : flat.support.Finite
  own_id : ∀ k id r, flat (k, id) = some r → r.id = id

theorem proper_empty : empty.Proper where
  finite := by simp [support, empty]
  own_id := by simp [empty]

namespace Proper

variable {flat flat' : FlatCache}

theorem mono (h : flat.Proper) (hle : ∀ key r, flat' key = some r → flat key = some r) :
    flat'.Proper where
  finite := h.finite.subset fun key hkey => by
    obtain ⟨r, hr⟩ := Option.isSome_iff_exists.1 hkey
    exact Option.isSome_iff_exists.2 ⟨r, hle key r hr⟩
  own_id k id r hr := h.own_id k id r (hle (k, id) r hr)

theorem put (h : flat.Proper) (k : Container) (r : Record) : (flat.put k r).Proper where
  finite := by
    refine (h.finite.insert (k, r.id)).subset fun key hkey => ?_
    by_cases hk : key = (k, r.id)
    · exact Or.inl hk
    · refine Or.inr ?_
      simpa [support, FlatCache.put, Function.update_of_ne hk] using hkey
  own_id := by
    intro k' id r' hr
    by_cases hk : (k', id) = (k, r.id)
    · rw [FlatCache.put, hk, Function.update_self] at hr
      obtain rfl := Option.some.inj hr
      exact (Prod.mk.inj hk).2.symm
    · rw [FlatCache.put, Function.update_of_ne hk] at hr
      exact h.own_id k' id r' hr

theorem apply (h : flat.Proper) (change : Cache.Change) : (flat.apply change).Proper := by
  cases change with
  | put k r => exact h.put k r
  | merge k rs =>
      show (rs.foldl (fun flat r => flat.put k r) flat).Proper
      induction rs generalizing flat with
      | nil => exact h
      | cons r rs ih => exact ih (h.put k r)
  | forget k id =>
      refine h.mono fun key r hr => ?_
      by_cases hk : key = (k, id)
      · simp [FlatCache.apply, hk] at hr
      · rwa [FlatCache.apply, Function.update_of_ne hk] at hr
  | resetContainer k =>
      refine h.mono fun key r hr => ?_
      by_cases hk : key.1 = k
      · simp [FlatCache.apply, hk] at hr
      · simpa [FlatCache.apply, hk] using hr
  | reset => exact proper_empty

end Proper
end FlatCache

namespace FunctionCache

variable {c : FunctionCache}

theorem perm_ids (c : FunctionCache) : c.ids.Perm c.keys := List.mergeSort_perm _ _

theorem pairwise_ids (h : c.keys.Nodup) : c.ids.Pairwise (· < ·) := by
  have hsorted : c.ids.Pairwise fun a b => (!decide (b < a)) = true := by
    refine List.pairwise_mergeSort ?_ ?_ c.keys
    · intro x y z hxy hyz
      simp only [Bool.not_eq_true', decide_eq_false_iff_not, String.not_lt] at hxy hyz ⊢
      exact String.le_trans hxy hyz
    · intro x y
      simpa only [Bool.or_eq_true, Bool.not_eq_true', decide_eq_false_iff_not, String.not_lt]
        using String.le_total x y
  have hnodup : c.ids.Pairwise (· ≠ ·) := c.perm_ids.nodup_iff.2 h
  refine (hsorted.and hnodup).imp fun {x y} hxy => ?_
  have hle : ¬y < x := by simpa using hxy.1
  by_contra hlt
  exact hxy.2 (String.le_antisymm (String.not_lt.1 hle) (String.not_lt.1 hlt))

theorem mem_keys_iff {id : String} : id ∈ c.keys ↔ (c.get? id).isSome = true := by
  rw [← not_iff_not, Bool.not_eq_true, Option.isSome_eq_false_iff, Option.isNone_iff_eq_none,
    Entries.get?_eq_none_iff]

end FunctionCache

namespace Cache

def Change.container? : Change → Option Container
  | .put k _ => some k
  | .merge k _ => some k
  | .forget k _ => some k
  | .resetContainer k => some k
  | .reset => none

/-- A cache that every reader takes for the map. -/
structure Represents (c : Cache) (flat : FlatCache) : Prop where
  get?_eq : ∀ k id, c.get? k id = flat (k, id)
  has_eq : ∀ k id, c.has k id = (flat (k, id)).isSome
  snapshot_get? : ∀ k id, (c.functions k).get? id = flat (k, id)
  snapshot_has : ∀ k id, (c.functions k).has id = (flat (k, id)).isSome
  size_eq : ∀ k, c.size k = (flat.idsOf k).ncard
  snapshot_size : ∀ k, (c.functions k).length = (flat.idsOf k).ncard
  mem_ids : ∀ k id, id ∈ (c.functions k).ids ↔ id ∈ flat.idsOf k
  ids_increasing : ∀ k, (c.functions k).ids.Pairwise (· < ·)
  missing_eq : ∀ k rs, c.missing k rs = rs.filter fun r => (flat (k, r.id)).isNone

/-- It is enough that no key stands twice and that look-ups agree. -/
theorem Represents.of_get? {c : Cache} {flat : FlatCache} (hc : c.Distinct)
    (h : ∀ k id, c.get? k id = flat (k, id)) : c.Represents flat := by
  have hhas : ∀ k id, c.has k id = (flat (k, id)).isSome := by
    intro k id
    rw [← h]
    rfl
  have hkeys : ∀ k, flat.idsOf k = { id | id ∈ (c.functions k).keys } := by
    intro k
    ext id
    show (flat (k, id)).isSome = true ↔ id ∈ (c.functions k).keys
    rw [FunctionCache.mem_keys_iff, ← hhas]
    exact Iff.rfl
  have hsize : ∀ k, (c.functions k).length = (flat.idsOf k).ncard := by
    intro k
    rw [hkeys, ← List.coe_toFinset, Set.ncard_coe_finset,
      List.toFinset_card_of_nodup (hc.functions k), Entries.keys, List.length_map]
  constructor
  · exact h
  · exact hhas
  · exact h
  · exact hhas
  · exact hsize
  · exact hsize
  · intro k id
    rw [hkeys]
    exact (c.functions k).perm_ids.mem_iff
  · exact fun k => FunctionCache.pairwise_ids (hc.functions k)
  · intro k rs
    refine List.filter_congr fun r _ => ?_
    rw [hhas, Option.not_isSome]

/-! ## One change -/

variable {c : Cache} {flat : FlatCache}

theorem get?_put (h : ∀ k id, c.get? k id = flat (k, id)) (k : Container) (r : Record)
    (k' : Container) (id : String) :
    (c.apply (.put k r)).get? k' id = flat.put k r (k', id) := by
  rw [get?, apply, functions_update, FlatCache.put]
  by_cases hk : k' = k
  · subst hk
    rw [if_pos rfl, FunctionCache.put, Entries.get?_insert]
    by_cases hid : id = r.id
    · simp [hid]
    · simpa [hid, Function.update_of_ne, get?] using h k' id
  · simpa [hk, Function.update_of_ne, get?] using h k' id

theorem functions_merge_cons (c : Cache) (k : Container) (r : Record) (rs : List Record)
    (k' : Container) :
    (c.apply (.merge k (r :: rs))).functions k' =
      ((c.apply (.put k r)).apply (.merge k rs)).functions k' := by
  simp only [apply, functions_update]
  by_cases hk : k' = k
  · simp [hk, FunctionCache.putAll]
  · simp [hk]

theorem get?_merge_eq (h : ∀ k id, c.get? k id = flat (k, id)) (k : Container) (rs : List Record)
    (k' : Container) (id : String) :
    (c.apply (.merge k rs)).get? k' id = flat.apply (.merge k rs) (k', id) := by
  induction rs generalizing c flat with
  | nil =>
      rw [get?, apply, functions_update]
      by_cases hk : k' = k
      · simpa [hk, FunctionCache.putAll, FlatCache.apply, get?] using h k id
      · simpa [hk, FlatCache.apply, get?] using h k' id
  | cons r rs ih =>
      rw [get?, functions_merge_cons]
      exact ih (get?_put h k r)

/-- Whatever is changed, look-ups in the cache and in the map agree afterwards. -/
theorem get?_apply (hc : c.Distinct) (h : ∀ k id, c.get? k id = flat (k, id)) (change : Change)
    (k : Container) (id : String) : (c.apply change).get? k id = flat.apply change (k, id) := by
  cases change with
  | put k' r => exact get?_put h k' r k id
  | merge k' rs => exact get?_merge_eq h k' rs k id
  | forget k' id' =>
      rw [hc.get?_forget, FlatCache.apply, Function.update_apply, h]
      simp only [Prod.mk.injEq]
  | resetContainer k' =>
      rw [get?, hc.functions_resetContainer, FlatCache.apply]
      by_cases hk : k = k'
      · simp [hk]
      · simpa [hk, get?] using h k id
  | reset => rfl

theorem answer_eq (h : ∀ k id, c.get? k id = flat (k, id)) (change : Change) :
    c.answer change = flat.answer change := by
  cases change with
  | forget k id => exact h k id
  | put k r => rfl
  | merge k rs => rfl
  | resetContainer k => rfl
  | reset => rfl

theorem functions_apply_of_ne (hc : c.Distinct) {change : Change} {k k' : Container}
    (hchange : change.container? = some k) (hk : k' ≠ k) :
    (c.apply change).functions k' = c.functions k' := by
  cases change with
  | put k₀ r =>
      obtain rfl := Option.some.inj hchange
      simp [apply, functions_update, hk]
  | merge k₀ rs =>
      obtain rfl := Option.some.inj hchange
      simp [apply, functions_update, hk]
  | forget k₀ id =>
      obtain rfl := Option.some.inj hchange
      simp [apply, functions_update, hk]
  | resetContainer k₀ =>
      obtain rfl := Option.some.inj hchange
      simp [hc.functions_resetContainer, hk]
  | reset => cases hchange

/-! ## Any changes -/

structure Simulates (c : Cache) (flat : FlatCache) : Prop where
  distinct : c.Distinct
  get?_eq : ∀ k id, c.get? k id = flat (k, id)
  proper : flat.Proper

theorem simulates_empty : empty.Simulates .empty where
  distinct := distinct_empty
  get?_eq := fun _ _ => rfl
  proper := FlatCache.proper_empty

theorem Simulates.apply (h : c.Simulates flat) (change : Change) :
    (c.apply change).Simulates (flat.apply change) where
  distinct := h.distinct.apply change
  get?_eq := get?_apply h.distinct h.get?_eq change
  proper := h.proper.apply change

theorem Simulates.applyAll (h : c.Simulates flat) (changes : List Change) :
    (changes.foldl Cache.apply c).Simulates (changes.foldl FlatCache.apply flat) := by
  induction changes generalizing c flat with
  | nil => exact h
  | cons change changes ih => exact ih (h.apply change)

/-- Whatever changes are made, a cache is to its readers the one map that the same changes make: a
finite one, with every record under its own id. A further change gives back the same record, and
leaves all other containers as they are, of which the database and the collection with one link are
two. -/
theorem cache_is_flat (changes : List Change) :
    ∃ c flat, c = changes.foldl apply empty ∧ flat = changes.foldl FlatCache.apply .empty ∧
      flat.Proper ∧ c.Represents flat ∧
      (∀ change, c.answer change = flat.answer change ∧
        ∀ k k', change.container? = some k → k' ≠ k →
          (c.apply change).functions k' = c.functions k') ∧
      ∀ link, Container.database link ≠ Container.collection link := by
  have h := simulates_empty.applyAll changes
  refine ⟨_, _, rfl, rfl, h.proper, .of_get? h.distinct h.get?_eq, fun change => ⟨?_, ?_⟩, ?_⟩
  · exact answer_eq h.get?_eq change
  · intro k k' hchange hk
    exact functions_apply_of_ne h.distinct hchange hk
  · intro link hlink
    cases hlink

end Cache
end DocQuery
