import DocQuery.Proofs.Cache

/-! # Requirements without repetition

Of the requirements with one id the first is kept. This can be done in parts, and before or after
requirements are left out by their ids, as a cache does with those that it knows.
-/

namespace DocQuery

namespace Requirement

def ids (rs : List Requirement) : List String := rs.map (·.id)

/-- What is left of requirements when only the first of each id is kept. -/
structure FirstOfEach (rs kept : List Requirement) : Prop where
  kept_eq : kept = (rs.zipIdx.filter fun (r, i) => (rs.take i).all (·.id ≠ r.id)).map Prod.fst
  sublist : kept.Sublist rs
  nodup : (ids kept).Nodup
  mem_ids : ∀ id, id ∈ ids kept ↔ id ∈ ids rs
  first : ∀ r ∈ kept, rs.find? (·.id = r.id) = some r

theorem dedup_eq (rs : List Requirement) :
    dedup rs = (rs.zipIdx.filter fun (r, i) => (rs.take i).all (·.id ≠ r.id)).map Prod.fst := by
  simp only [dedup, dedupAux_eq, List.not_mem_nil, not_false_eq_true, decide_true, Bool.true_and]

theorem firstOfEach_dedup (rs : List Requirement) : FirstOfEach rs (dedup rs) where
  kept_eq := dedup_eq rs
  sublist := dedup_sublist rs
  nodup := nodup_dedup rs
  mem_ids := by
    intro id
    constructor
    · exact fun h => ((dedup_sublist rs).map _).subset h
    · intro h
      obtain ⟨r, hr, rfl⟩ := List.mem_map.1 h
      obtain ⟨r', hr', hid⟩ := exists_mem_dedup hr
      exact List.mem_map.2 ⟨r', hr', hid⟩
  first := fun _ => find?_of_mem_dedupAux

/-! ## The loop with the ids met -/

/-- Ids met before are left out of what would be kept without them. -/
theorem dedupAux_append_met (met' met : List String) (rs : List Requirement) :
    dedupAux (met' ++ met) rs = (dedupAux met rs).filter fun r => r.id ∉ met' := by
  induction rs generalizing met with
  | nil => rfl
  | cons x rs ih =>
      have hswap : dedupAux (x.id :: (met' ++ met)) rs = dedupAux (met' ++ x.id :: met) rs :=
        dedupAux_congr (fun id => by simp [or_left_comm]) rs
      by_cases hmet : x.id ∈ met
      · simp only [dedupAux, List.mem_append, hmet, or_true, if_true]
        exact ih met
      · by_cases hmet' : x.id ∈ met'
        · simp only [dedupAux, List.mem_append, hmet, hmet', true_or, if_true, if_false]
          rw [List.filter_cons_of_neg (by simpa using hmet'), ← ih (x.id :: met), ← hswap,
            dedupAux_cons_of_mem (List.mem_append_left met hmet')]
        · simp only [dedupAux, List.mem_append, hmet, hmet', or_self, if_false]
          rw [List.filter_cons_of_pos (by simpa using hmet'), ← ih (x.id :: met), hswap]

theorem dedupAux_idem (met : List String) (rs : List Requirement) :
    dedupAux met (dedupAux met rs) = dedupAux met rs := by
  induction rs generalizing met with
  | nil => rfl
  | cons x rs ih =>
      by_cases hmet : x.id ∈ met
      · simp only [dedupAux, hmet, if_true]
        exact ih met
      · simp only [dedupAux, hmet, if_false]
        rw [ih (x.id :: met)]

theorem dedupAux_append (met : List String) (xs ys : List Requirement) :
    dedupAux met (xs ++ ys) = dedupAux met xs ++ dedupAux (ids xs ++ met) ys := by
  induction xs generalizing met with
  | nil => rfl
  | cons x xs ih =>
      by_cases hmet : x.id ∈ met
      · have hagain : dedupAux (ids (x :: xs) ++ met) ys = dedupAux (ids xs ++ met) ys :=
          dedupAux_cons_of_mem (List.mem_append_right _ hmet) ys
        simp only [List.cons_append, dedupAux, hmet, if_true, ih, hagain]
      · have hswap : dedupAux (ids xs ++ x.id :: met) ys = dedupAux (ids (x :: xs) ++ met) ys :=
          dedupAux_congr (fun id => by simp [ids, or_left_comm]) ys
        simp only [List.cons_append, dedupAux, hmet, if_false, ih, hswap]

theorem dedupAux_filter (P : String → Bool) (met : List String) (rs : List Requirement) :
    dedupAux met (rs.filter fun r => P r.id) = (dedupAux met rs).filter fun r => P r.id := by
  induction rs generalizing met with
  | nil => rfl
  | cons x rs ih =>
      by_cases hx : P x.id = true
      · by_cases hmet : x.id ∈ met <;> simp [dedupAux, hx, hmet, ih]
      · -- A requirement that is left out would stand only for others that are left out.
        have hnone : dedupAux (x.id :: met) (rs.filter fun r => P r.id) =
            dedupAux met (rs.filter fun r => P r.id) := by
          rw [← List.singleton_append, dedupAux_append_met, List.filter_eq_self]
          intro r hr
          have hP := (List.mem_filter.1 ((dedupAux_sublist met _).subset hr)).2
          simp only [List.mem_singleton, decide_eq_true_eq]
          intro heq
          exact hx (heq ▸ hP)
        by_cases hmet : x.id ∈ met
        · simp only [List.filter_cons, hx, if_false, Bool.false_eq_true, dedupAux, hmet, if_true]
          exact ih met
        · simp only [List.filter_cons, hx, if_false, Bool.false_eq_true, dedupAux, hmet]
          rw [← ih (x.id :: met), hnone]

/-! ## Laws -/

theorem dedup_dedup (rs : List Requirement) : dedup (dedup rs) = dedup rs := dedupAux_idem [] rs

/-- Requirements in two parts: the second part keeps what the first does not require. -/
theorem dedup_append (xs ys : List Requirement) :
    dedup (xs ++ ys) = dedup xs ++ (dedup ys).filter fun r => r.id ∉ ids xs := by
  rw [dedup, dedupAux_append, dedupAux_append_met]
  rfl

end Requirement

namespace Cache

/-- What is missing of the requirements without repetition is what is missing, without
repetition. -/
theorem missing_dedup_comm (c : Cache) (k : Container) (rs : List Requirement) :
    c.missing k (Requirement.dedup rs) = Requirement.dedup (c.missing k rs) :=
  (Requirement.dedupAux_filter (fun id => !c.has k id) [] rs).symm

end Cache
end DocQuery
