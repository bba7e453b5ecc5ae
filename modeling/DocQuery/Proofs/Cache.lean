import DocQuery.Cache

/-! # What caches know

Remembering records adds to what a cache knows and loses nothing; forgetting takes away exactly what
it names. The latter holds as long as no key stands twice, which is so in every cache that arises
from the empty one.
-/

namespace DocQuery

namespace Requirement

theorem dedupAux_sublist (met : List String) (rs : List Requirement) :
    (dedupAux met rs).Sublist rs := by
  induction rs generalizing met with
  | nil => exact .slnil
  | cons r rs ih =>
      simp only [dedupAux]
      split
      · exact (ih met).cons r
      · exact (ih (r.id :: met)).cons_cons r

theorem dedup_sublist (rs : List Requirement) : (dedup rs).Sublist rs := dedupAux_sublist [] rs

theorem exists_mem_dedupAux {met : List String} {rs : List Requirement} {r : Requirement}
    (hr : r ∈ rs) (hm : r.id ∉ met) : ∃ r' ∈ dedupAux met rs, r'.id = r.id := by
  induction rs generalizing met with
  | nil => simp at hr
  | cons x rs ih =>
      simp only [dedupAux]
      by_cases hx : x.id ∈ met
      · rw [if_pos hx]
        rcases List.mem_cons.1 hr with rfl | hr
        · exact absurd hx hm
        · exact ih hr hm
      · rw [if_neg hx]
        by_cases he : x.id = r.id
        · exact ⟨x, by simp, he⟩
        · rcases List.mem_cons.1 hr with rfl | hr
          · exact absurd rfl he
          · have hm' : r.id ∉ x.id :: met := by simp [Ne.symm he, hm]
            obtain ⟨r', hr', hid⟩ := ih hr hm'
            exact ⟨r', List.mem_cons_of_mem x hr', hid⟩

theorem exists_mem_dedup {rs : List Requirement} {r : Requirement} (hr : r ∈ rs) :
    ∃ r' ∈ dedup rs, r'.id = r.id :=
  exists_mem_dedupAux hr (by simp)

theorem nodup_dedupAux (met : List String) (rs : List Requirement) :
    ((dedupAux met rs).map (·.id)).Nodup ∧ ∀ r ∈ dedupAux met rs, r.id ∉ met := by
  induction rs generalizing met with
  | nil => simp [dedupAux]
  | cons x rs ih =>
      simp only [dedupAux]
      split
      · exact ih met
      · rename_i hx
        obtain ⟨hnodup, hnew⟩ := ih (x.id :: met)
        have hfirst : x.id ∉ (dedupAux (x.id :: met) rs).map (·.id) := fun hm => by
          obtain ⟨r, hr, hid⟩ := List.mem_map.1 hm
          exact hnew r hr (hid ▸ List.mem_cons_self)
        refine ⟨List.nodup_cons.2 ⟨hfirst, hnodup⟩, fun r hr => ?_⟩
        rcases List.mem_cons.1 hr with rfl | hr
        · exact hx
        · exact fun hm => hnew r hr (List.mem_cons_of_mem _ hm)

theorem nodup_dedup (rs : List Requirement) : ((dedup rs).map (·.id)).Nodup :=
  (nodup_dedupAux [] rs).1

theorem find?_of_mem_dedupAux {met : List String} {rs : List Requirement} {r : Requirement}
    (h : r ∈ dedupAux met rs) : rs.find? (·.id = r.id) = some r := by
  induction rs generalizing met with
  | nil => simp [dedupAux] at h
  | cons x rs ih =>
      have hnew := (nodup_dedupAux met (x :: rs)).2 r h
      simp only [dedupAux] at h
      by_cases hx : x.id ∈ met
      · rw [if_pos hx] at h
        have hne : x.id ≠ r.id := fun he => hnew (he ▸ hx)
        rw [List.find?_cons_of_neg (by simpa using hne)]
        exact ih h
      · rw [if_neg hx] at h
        rcases List.mem_cons.1 h with rfl | h
        · exact List.find?_cons_of_pos (by simp)
        · have hne : x.id ≠ r.id := fun he =>
            (nodup_dedupAux (x.id :: met) rs).2 r h (he ▸ List.mem_cons_self)
          rw [List.find?_cons_of_neg (by simpa using hne)]
          exact ih h

/-- Only which ids have been met counts. -/
theorem dedupAux_congr {met met' : List String} (h : ∀ id, id ∈ met ↔ id ∈ met')
    (rs : List Requirement) : dedupAux met rs = dedupAux met' rs := by
  induction rs generalizing met met' with
  | nil => rfl
  | cons x rs ih =>
      have hcons : ∀ id, id ∈ x.id :: met ↔ id ∈ x.id :: met' := by simp [h]
      simp only [dedupAux, h, ih h, ih hcons]

theorem dedupAux_cons_of_mem {id : String} {met : List String} (h : id ∈ met)
    (rs : List Requirement) : dedupAux (id :: met) rs = dedupAux met rs := by
  refine dedupAux_congr (fun id' => ?_) rs
  rw [List.mem_cons, or_iff_right_of_imp]
  rintro rfl
  exact h

theorem dedupAux_eq (met : List String) (rs : List Requirement) :
    dedupAux met rs = (rs.zipIdx.filter fun (r, i) =>
      decide (r.id ∉ met) && (rs.take i).all (·.id ≠ r.id)).map Prod.fst := by
  induction rs generalizing met with
  | nil => rfl
  | cons x rs ih =>
      have htail : ((rs.zipIdx (0 + 1)).filter fun (r, i) =>
          decide (r.id ∉ met) && ((x :: rs).take i).all (·.id ≠ r.id)).map Prod.fst =
          dedupAux (x.id :: met) rs := by
        rw [ih, List.zipIdx_succ, List.filter_map, List.map_map]
        congr 1
        refine List.filter_congr fun y _ => ?_
        simp [eq_comm, Bool.and_left_comm, Bool.and_assoc]
      rw [List.zipIdx_cons, List.filter_cons, dedupAux]
      by_cases hx : x.id ∈ met
      · rw [if_pos hx, if_neg (by simp [hx]), htail, dedupAux_cons_of_mem hx]
      · rw [if_neg hx, if_pos (by simp [hx]), List.map_cons, htail]

end Requirement

namespace FunctionCache

/-- What is known of an id after records have been stored: the last of them that has it, or else
what was known before. -/
theorem get?_putAll_eq (c : FunctionCache) (rs : List Record) (id : String) :
    (c.putAll rs).get? id = (rs.reverse.find? (·.id = id)).or (c.get? id) := by
  induction rs generalizing c with
  | nil => rfl
  | cons x rs ih =>
      show ((c.put x).putAll rs).get? id = _
      rw [ih, List.reverse_cons, List.find?_append, Option.or_assoc, put, Entries.get?_insert]
      by_cases hx : x.id = id
      · simp [hx]
      · simp [hx, Ne.symm hx]

theorem get?_putAll {c : FunctionCache} {rs : List Record} {id : String} {r : Record}
    (h : (c.putAll rs).get? id = some r) : (r ∈ rs ∧ r.id = id) ∨ c.get? id = some r := by
  rw [get?_putAll_eq, Option.or_eq_some_iff] at h
  rcases h with hfound | ⟨-, hbefore⟩
  · have hmem := List.mem_reverse.1 (List.mem_of_find?_eq_some hfound)
    exact Or.inl ⟨hmem, by simpa using List.find?_some hfound⟩
  · exact Or.inr hbefore

theorem has_putAll (c : FunctionCache) (rs : List Record) (id : String) :
    (c.putAll rs).has id = true ↔ c.has id = true ∨ ∃ r ∈ rs, r.id = id := by
  induction rs generalizing c with
  | nil => simp [putAll]
  | cons x rs ih =>
      have hx : (c.put x).has id = true ↔ c.has id = true ∨ x.id = id := by
        simp only [has, Entries.contains, put, Entries.get?_insert]
        by_cases he : id = x.id
        · simp [he]
        · simp [he, Ne.symm he]
      show ((c.put x).putAll rs).has id = true ↔ _
      rw [ih, hx]
      simp [or_assoc]

theorem nodup_putAll {c : FunctionCache} (h : c.keys.Nodup) (rs : List Record) :
    (c.putAll rs).keys.Nodup := by
  induction rs generalizing c with
  | nil => exact h
  | cons x rs ih => exact ih (c := c.put x) (Entries.nodup_keys_insert h _ _)

end FunctionCache

namespace Cache

theorem has_eq_true_iff {c : Cache} {k : Container} {id : String} :
    c.has k id = true ↔ ∃ r, c.get? k id = some r :=
  Option.isSome_iff_exists

@[simp] theorem get?_empty (k : Container) (id : String) : empty.get? k id = none := rfl

theorem functions_update (c : Cache) (k k' : Container) (f : FunctionCache → FunctionCache) :
    (c.update k f).functions k' = if k' = k then f (c.functions k) else c.functions k' := by
  simp only [functions, update, Entries.get?_insert]
  split <;> rfl

theorem mem_missing {c : Cache} {k : Container} {rs : List Requirement} {r : Requirement} :
    r ∈ c.missing k rs ↔ r ∈ rs ∧ c.has k r.id = false := by
  simp [missing]

/-- The requirements that a cache does not know, in order, each id where it occurs first. -/
structure Lacks (c : Cache) (k : Container) (rs missing : List Requirement) : Prop where
  sublist : missing.Sublist rs
  nodup : (missing.map (·.id)).Nodup
  first : ∀ r ∈ missing, c.has k r.id = false ∧ rs.find? (·.id = r.id) = some r
  complete : ∀ r ∈ rs, c.has k r.id = true ∨ ∃ r' ∈ missing, r'.id = r.id

theorem lacks_missing (c : Cache) (k : Container) (rs : List Requirement) :
    c.Lacks k rs (c.missing k (Requirement.dedup rs)) where
  sublist := List.filter_sublist.trans (Requirement.dedup_sublist rs)
  nodup := (Requirement.nodup_dedup rs).sublist (List.filter_sublist.map _)
  first := by
    intro r hr
    obtain ⟨hmem, hunknown⟩ := mem_missing.1 hr
    exact ⟨hunknown, Requirement.find?_of_mem_dedupAux hmem⟩
  complete := by
    intro r hr
    obtain ⟨r', hr', hid⟩ := Requirement.exists_mem_dedup hr
    cases hc : c.has k r.id with
    | true => exact Or.inl rfl
    | false => exact Or.inr ⟨r', mem_missing.2 ⟨hr', hid ▸ hc⟩, hid⟩

def unknown (c : Cache) (k : Container) (rs : List Requirement) : List Requirement :=
  (rs.zipIdx.filter fun (r, i) => (rs.take i).all (·.id ≠ r.id) && !c.has k r.id).map Prod.fst

theorem missing_isEmpty_iff {c : Cache} {k : Container} {rs : List Requirement} :
    (c.missing k (Requirement.dedup rs)).isEmpty = true ↔ ∀ r ∈ rs, c.has k r.id = true := by
  have hlacks := c.lacks_missing k rs
  rw [List.isEmpty_iff]
  constructor
  · intro hnone r hr
    rcases hlacks.complete r hr with hknown | ⟨r', hr', -⟩
    · exact hknown
    · rw [hnone] at hr'
      cases hr'
  · intro hall
    refine List.eq_nil_iff_forall_not_mem.2 fun r hr => ?_
    have hunknown := (hlacks.first r hr).1
    rw [hall r (hlacks.sublist.subset hr)] at hunknown
    cases hunknown

theorem missing_missing {c c' : Cache} {k : Container}
    (h : ∀ id, c.has k id = true → c'.has k id = true) (rs : List Requirement) :
    c'.missing k (c.missing k rs) = c'.missing k rs := by
  rw [missing, missing, missing, List.filter_filter]
  refine List.filter_congr fun r _ => ?_
  cases hc : c.has k r.id with
  | true => simp [h r.id hc]
  | false => simp

/-- What is known after a listing was remembered stood in the listing, or was known before. -/
theorem get?_merge {c : Cache} {k k' : Container} {rs : List Record} {id : String} {r : Record}
    (h : (c.apply (.merge k rs)).get? k' id = some r) :
    (k' = k ∧ r ∈ rs ∧ r.id = id) ∨ c.get? k' id = some r := by
  simp only [apply, get?, functions_update] at h
  split at h
  · rename_i hk
    rcases FunctionCache.get?_putAll h with hr | hr
    · exact Or.inl ⟨hk, hr⟩
    · exact Or.inr (by rwa [get?, hk])
  · exact Or.inr h

theorem has_merge (c : Cache) (k k' : Container) (rs : List Record) (id : String) :
    (c.apply (.merge k rs)).has k' id = true ↔
      c.has k' id = true ∨ (k' = k ∧ ∃ r ∈ rs, r.id = id) := by
  simp only [apply, has, functions_update]
  split
  · rename_i hk
    rw [FunctionCache.has_putAll, hk]
    simp
  · rename_i hk
    simp [hk]

def Grows (c c' : Cache) : Prop := ∀ k id, c.has k id = true → c'.has k id = true

theorem Grows.refl (c : Cache) : c.Grows c := fun _ _ h => h

theorem Grows.trans {c c' c'' : Cache} (h : c.Grows c') (h' : c'.Grows c'') : c.Grows c'' :=
  fun k id hk => h' k id (h k id hk)

theorem Grows.merge (c : Cache) (k : Container) (rs : List Record) :
    c.Grows (c.apply (.merge k rs)) :=
  fun k' id h => (has_merge c k k' rs id).2 (Or.inl h)

def Change.Stores (k : Container) : Change → Prop
  | .put k' _ => k' = k
  | .merge k' _ => k' = k
  | _ => False

theorem Grows.store {change : Change} {k : Container} (h : change.Stores k) (c : Cache) :
    c.Grows (c.apply change) := by
  cases change with
  | put k' r => exact .merge c k' [r]
  | merge k' rs => exact .merge c k' rs
  | forget k' id => exact h.elim
  | resetContainer k' => exact h.elim
  | reset => exact h.elim

theorem functions_store {change : Change} {k k' : Container} (h : change.Stores k) (hk : k' ≠ k)
    (c : Cache) : (c.apply change).functions k' = c.functions k' := by
  cases change with
  | put k₀ r =>
      obtain rfl : k₀ = k := h
      simp [apply, functions_update, hk]
  | merge k₀ rs =>
      obtain rfl : k₀ = k := h
      simp [apply, functions_update, hk]
  | forget k₀ id => exact h.elim
  | resetContainer k₀ => exact h.elim
  | reset => exact h.elim

structure Distinct (c : Cache) : Prop where
  containers : c.containers.keys.Nodup
  functions : ∀ k, (c.functions k).keys.Nodup

theorem distinct_empty : empty.Distinct where
  containers := List.nodup_nil
  functions := fun _ => List.nodup_nil

theorem Distinct.update {c : Cache} (h : c.Distinct) {k : Container}
    {f : FunctionCache → FunctionCache} (hf : (f (c.functions k)).keys.Nodup) :
    (c.update k f).Distinct where
  containers := Entries.nodup_keys_insert h.containers _ _
  functions := by
    intro k'
    rw [functions_update]
    split
    · exact hf
    · exact h.functions k'

theorem Distinct.functions_resetContainer {c : Cache} (h : c.Distinct) (k k' : Container) :
    (c.apply (.resetContainer k)).functions k' = if k' = k then [] else c.functions k' := by
  simp only [apply, Cache.functions, Entries.get?_erase h.containers]
  split <;> rfl

/-- However a cache is changed, no key comes to stand twice. -/
theorem Distinct.apply {c : Cache} (h : c.Distinct) (change : Change) :
    (c.apply change).Distinct := by
  cases change with
  | put k r => exact h.update (f := (·.put r)) (Entries.nodup_keys_insert (h.functions k) _ _)
  | merge k rs =>
      exact h.update (f := (·.putAll rs)) (FunctionCache.nodup_putAll (h.functions k) rs)
  | forget k id => exact h.update (f := (·.erase id)) (Entries.nodup_keys_erase (h.functions k) id)
  | reset => exact distinct_empty
  | resetContainer k =>
      refine ⟨Entries.nodup_keys_erase h.containers k, fun k' => ?_⟩
      rw [h.functions_resetContainer]
      split
      · exact List.nodup_nil
      · exact h.functions k'

/-- Forgetting takes away one id of one container. -/
theorem Distinct.get?_forget {c : Cache} (h : c.Distinct) (k k' : Container) (id id' : String) :
    (c.apply (.forget k id)).get? k' id' =
      if k' = k ∧ id' = id then none else c.get? k' id' := by
  simp only [Cache.apply, get?, functions_update]
  by_cases hk : k' = k
  · subst hk
    simp only [if_true, true_and, Entries.get?_erase (h.functions k')]
  · simp only [hk, if_false, false_and]

/-- Forgetting and resetting bring nothing new. -/
theorem Distinct.get?_of_get?_apply {c : Cache} (h : c.Distinct) {change : Change}
    (hput : ∀ k r, change ≠ .put k r) (hmerge : ∀ k rs, change ≠ .merge k rs) {k : Container}
    {id : String} {r : Record} (hr : (c.apply change).get? k id = some r) :
    c.get? k id = some r := by
  cases change with
  | put k r => exact absurd rfl (hput k r)
  | merge k rs => exact absurd rfl (hmerge k rs)
  | reset => simp [Cache.apply] at hr
  | forget k' id' =>
      rw [h.get?_forget] at hr
      split at hr
      · cases hr
      · exact hr
  | resetContainer k' =>
      rw [get?, h.functions_resetContainer] at hr
      split at hr
      · simp at hr
      · exact hr

end Cache
end DocQuery
