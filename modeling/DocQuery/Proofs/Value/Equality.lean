import DocQuery.Proofs.Json.Equality

/-! # Equal values and their digests

Equality of values is symmetric and transitive, and every value is equal to itself but a double that
is no number. Equal values can have different digests: the digest sees the sign of a zero and the
order of members, which equality does not.
-/

namespace DocQuery.Value

open Numeric

def DistinctKeys : Value → Prop
  | .json j => j.DistinctKeys
  | _ => True

def isNaN : Value → Bool
  | .float x => x.isNaN
  | _ => false

theorem same_self_iff {a : Value} (h : a.DistinctKeys) : a.same a = true ↔ a.isNaN = false := by
  cases a with
  | float x => exact Binary64.numEq_self_iff
  | json j => exact iff_of_true (Json.same_self h) rfl
  | _ => simp [same, isNaN]

/-- Equal values are one value, unless they are doubles or JSON. -/
theorem same_cases {a b : Value} (h : a.same b = true) :
    (∃ x y, a = .float x ∧ b = .float y ∧ x.numEq y = true) ∨
    (∃ j k, a = .json j ∧ b = .json k ∧ j.same k = true) ∨ a = b := by
  cases a <;> cases b <;> simp only [same, Bool.false_eq_true] at h
  case float.float x y => exact .inl ⟨x, y, rfl, rfl, h⟩
  case json.json j k => exact .inr (.inl ⟨j, k, rfl, rfl, h⟩)
  all_goals simp_all

theorem same_symm {a b : Value} (ha : a.DistinctKeys) (hb : b.DistinctKeys)
    (h : a.same b = true) : b.same a = true := by
  rcases same_cases h with ⟨x, y, rfl, rfl, hxy⟩ | ⟨j, k, rfl, rfl, hjk⟩ | rfl
  · rw [Binary64.numEq_comm] at hxy
    exact hxy
  · exact Json.same_symm ha hb hjk
  · exact h

theorem same_trans {a b c : Value} (hab : a.same b = true) (hbc : b.same c = true) :
    a.same c = true := by
  rcases same_cases hab with ⟨x, y, rfl, rfl, hxy⟩ | ⟨j, k, rfl, rfl, hjk⟩ | rfl
  · rcases same_cases hbc with ⟨_, z, ⟨⟩, rfl, hyz⟩ | ⟨_, _, ⟨⟩, _⟩ | rfl
    · exact Binary64.numEq_trans hxy hyz
    · exact hxy
  · rcases same_cases hbc with ⟨_, _, ⟨⟩, _⟩ | ⟨_, l, ⟨⟩, rfl, hkl⟩ | rfl
    · exact Json.same_trans hjk hkl
    · exact hjk
  · exact hbc

/-- Equal values have one digest only if nothing tells them apart. -/
theorem digest_eq_iff {a b : Value} (ha : a.DistinctKeys) (h : a.same b = true) :
    a.digest = b.digest ↔ a = b := by
  refine ⟨fun hdigest => ?_, congrArg digest⟩
  rcases same_cases h with ⟨⟨x⟩, ⟨y⟩, rfl, rfl, -⟩ | ⟨j, k, rfl, rfl, hjk⟩ | heq
  · obtain rfl : x = y := Digest.float.inj hdigest
    rfl
  · have hchars : j.chars = k.chars := String.ofList_injective (Digest.json.inj hdigest)
    rw [Json.eq_of_chars_eq ha hjk hchars]
  · exact heq

/-- What equality and digests have to do with each other: equality is an equivalence but for the
doubles that are no numbers, and of equal values exactly those have one digest that are the same to
the last bit, with their members in the same order. -/
theorem equality_with_digests (a b c : Value) (ha : a.DistinctKeys) (hb : b.DistinctKeys) :
    (a.same a = true ↔ a.isNaN = false) ∧
    a.same b = b.same a ∧
    (a.same b = true → b.same c = true → a.same c = true) ∧
    (a.same b = true → (a.digest = b.digest ↔ a = b)) := by
  refine ⟨same_self_iff ha, ?_, same_trans, digest_eq_iff ha⟩
  rw [Bool.eq_iff_iff]
  exact ⟨same_symm ha hb, same_symm hb ha⟩

theorem isFinite_zero (negative : Bool) : (Binary64.zero negative).isFinite = true :=
  Binary64.isFinite_ofMagnitudeBits (by decide)

def pointXY : Value :=
  .json (.obj [("x", .num (.float ⟨.zero false, isFinite_zero false⟩)), ("y", .null)])

def pointYX : Value :=
  .json (.obj [("y", .null), ("x", .num (.float ⟨.zero true, isFinite_zero true⟩))])

theorem points_have_two_digests :
    pointXY.DistinctKeys ∧ pointYX.DistinctKeys ∧ pointXY.same pointXY = true ∧
    pointXY.same pointYX = true ∧ pointYX.same pointXY = true ∧
    pointXY.digest ≠ pointYX.digest := by
  have hxy : pointXY.DistinctKeys := .obj (by decide)
    (List.forall_mem_cons.2 ⟨.num _, List.forall_mem_singleton.2 .null⟩)
  have hyx : pointYX.DistinctKeys := .obj (by decide)
    (List.forall_mem_cons.2 ⟨.null, List.forall_mem_singleton.2 (.num _)⟩)
  obtain ⟨hself, hsymm, -, hdigest⟩ := equality_with_digests pointXY pointYX pointXY hxy hyx
  have hsame : pointXY.same pointYX = true := by decide +kernel
  refine ⟨hxy, hyx, hself.2 rfl, hsame, hsymm ▸ hsame, ?_⟩
  rw [Ne, hdigest hsame]
  simp [pointXY, pointYX]

/-- A double that is no number differs from itself, and the two zeros are equal with digests of
their own. -/
theorem nan_differs_from_itself :
    (float ⟨0x7FF8000000000000⟩).same (float ⟨0x7FF8000000000000⟩) = false ∧
    (float (.zero false)).same (float (.zero true)) = true ∧
    (float (.zero false)).digest ≠ (float (.zero true)).digest := by
  decide +kernel

end DocQuery.Value
