import DocQuery.Proofs.Query.Compiling
import DocQuery.Proofs.Query.Template

/-! # The leaves of a predicate

Fragments are put together by connectives and parentheses, and some are dropped; the leaves that are
left stand in the order in which they were met. Every leaf that calls a function was met with the
requirement of this function, so a query calls nothing that it does not require.
-/

namespace DocQuery.Query

namespace Predicate

def leaves (p : Predicate) : List Leaf :=
  p.filterMap fun
    | .leaf l => some l
    | _ => none

@[simp] theorem leaves_nil : leaves [] = [] := rfl

@[simp] theorem leaves_leaf (l : Leaf) : leaves [.leaf l] = [l] := rfl

@[simp] theorem leaves_append (p q : Predicate) : leaves (p ++ q) = leaves p ++ leaves q :=
  List.filterMap_append

theorem mem_leaves {p : Predicate} {l : Leaf} : l ∈ p.leaves ↔ Token.leaf l ∈ p := by
  rw [leaves, List.mem_filterMap]
  constructor
  · rintro ⟨t, ht, hl⟩
    cases t with
    | leaf l' => exact Option.some.inj hl ▸ ht
    | _ => cases hl
  · exact fun h => ⟨_, h, rfl⟩

theorem calls_eq (p : Predicate) : p.calls = p.leaves.filterMap (·.function) := by
  rw [calls, leaves, List.filterMap_filterMap]
  congr 1
  funext t
  cases t <;> rfl

theorem join_cons_cons (connective : Token) (p q : Predicate) (parts : List Predicate) :
    join connective (p :: q :: parts) = p ++ connective :: join connective (q :: parts) := by
  simp [join, List.intercalate]

@[simp] theorem leaves_join (key : Connective) (parts : List Predicate) :
    leaves (join key.token parts) = parts.flatMap leaves := by
  have hcons : ∀ (p : Predicate), leaves (key.token :: p) = leaves p := fun p => by
    cases key <;> rfl
  induction parts with
  | nil => rfl
  | cons p parts ih =>
      cases parts with
      | nil => simp [join, List.intercalate]
      | cons q parts =>
          rw [join_cons_cons, leaves_append, hcons, ih]
          rfl

@[simp] theorem leaves_paren (p : Predicate) : leaves (paren p) = leaves p := by
  show leaves (p ++ [.rparen]) = leaves p
  simp [show leaves [.rparen] = [] from rfl]

@[simp] theorem leaves_negate (p : Predicate) : leaves (negate p) = leaves p := by
  by_cases h : p = []
  · simp [negate, h]
  · rw [negate, if_neg h]
    exact leaves_paren p

@[simp] theorem leaves_group (parts : List Predicate) :
    leaves (group .and parts) = parts.flatMap leaves := by
  match parts with
  | [] => rfl
  | [p] => simp [group]
  | p :: q :: parts =>
      have hparen : group .and (p :: q :: parts) = paren (join .and (p :: q :: parts)) := rfl
      rw [hparen, leaves_paren]
      exact leaves_join .and _

end Predicate

namespace Compiler

open Predicate (leaves leaves_join leaves_group)

@[simp] theorem leaves_joined (key : ListKeyword) (grouped : Bool) (parts : List Predicate) :
    leaves (joined key grouped parts) = parts.flatMap leaves := by
  rw [joined]
  split <;> simp

@[simp] theorem leaves_listPredicate (key : ListKeyword) (grouped : Bool)
    (parts : List Predicate) :
    leaves (listPredicate key grouped parts) = parts.flatMap leaves := by
  cases key <;> simp [listPredicate]

def Writes (c : Compiler) (l : Leaf) : Prop :=
  (∃ name v, l = c.equalityLeaf name v) ∨ ∃ name o argument, l = c.operatorLeaf name o argument

/-- The text of a leaf is a call of the function that it names; if it names none, the text begins
with a field. -/
def Spells (c : Compiler) (l : Leaf) : Prop :=
  match l.function with
  | some name => ∃ arguments, l.text = "udf." ++ name ++ "(" ++ arguments ++ ")"
  | none => ∃ field rest, l.text = c.dialect.fieldRef field ++ rest

section

variable (c : Compiler) (name : String)

theorem equalityLeaf_text (v : Value) :
    (c.equalityLeaf name v).text = c.dialect.fieldRef name ++ "=" ++ v.literal := by
  have hfill := Template.fill_pair (t := equality) "" "=" "" rfl (by decide) (by decide) (by decide)
    (c.dialect.fieldRef name) v.literal
  simpa [equalityLeaf] using hfill

theorem compareLeaf_text (comparison : Comparison) (argument : Node) :
    (c.operatorLeaf name (.compare comparison) argument).text =
      c.dialect.fieldRef name ++ (" " ++ comparison.symbol ++ " ") ++ argument.literal := by
  have hfill := Template.fill_pair (t := (Operator.compare comparison).template) ""
    (" " ++ comparison.symbol ++ " ") "" (by cases comparison <;> decide) (by decide)
    (by cases comparison <;> decide) (by decide) (c.dialect.fieldRef name) argument.literal
  simpa [operatorLeaf] using hfill

theorem callLeaf_text (f : ServerFunction) (argument : Node) :
    (c.operatorLeaf name (.call f) argument).text =
      "udf." ++ f.name ++ "(" ++ c.dialect.fieldRef name ++ ", " ++ argument.literal ++ ")" :=
  Template.fill_pair ("udf." ++ f.name ++ "(") ", " ")" (by cases f <;> decide)
    (by cases f <;> decide) (by decide) (by decide) _ _

end

theorem Writes.spells {c : Compiler} {l : Leaf} (h : c.Writes l) : c.Spells l := by
  rcases h with ⟨name, v, rfl⟩ | ⟨name, o, argument, rfl⟩
  · refine ⟨name, "=" ++ v.literal, ?_⟩
    rw [equalityLeaf_text, String.append_assoc]
  · cases o with
    | compare comparison =>
        refine ⟨name, " " ++ comparison.symbol ++ " " ++ argument.literal, ?_⟩
        simp only [compareLeaf_text, String.append_assoc]
    | call f =>
        refine ⟨c.dialect.fieldRef name ++ ", " ++ argument.literal, ?_⟩
        simp only [callLeaf_text, String.append_assoc]

/-- Leaves that were met together with requirements, some of which may have been dropped since. -/
def Met (c : Compiler) (ls : List Leaf) (rs : List Requirement) : Prop :=
  ∃ met : List Leaf, ls.Sublist met ∧ rs.map (·.id) = met.filterMap (·.function) ∧
    ∀ l ∈ met, c.Writes l

namespace Met

variable {c : Compiler} {ls ls' : List Leaf} {rs rs' : List Requirement}

theorem nil : c.Met [] [] := ⟨[], .refl _, rfl, by simp⟩

theorem one {l : Leaf} {rs : List Requirement} (hl : c.Writes l)
    (hrs : rs.map (·.id) = l.function.toList) : c.Met [l] rs := by
  refine ⟨[l], .refl _, ?_, by simpa using hl⟩
  rw [hrs]
  cases h : l.function <;> simp [h]

theorem append (h : c.Met ls rs) (h' : c.Met ls' rs') : c.Met (ls ++ ls') (rs ++ rs') := by
  obtain ⟨met, hsub, hrs, hw⟩ := h
  obtain ⟨met', hsub', hrs', hw'⟩ := h'
  refine ⟨met ++ met', hsub.append hsub', by rw [List.map_append, hrs, hrs', List.filterMap_append],
    fun l hl => ?_⟩
  rcases List.mem_append.1 hl with hl | hl
  · exact hw l hl
  · exact hw' l hl

theorem drop (h : c.Met ls rs) (hsub : ls'.Sublist ls) : c.Met ls' rs := by
  obtain ⟨met, hsub', h⟩ := h
  exact ⟨met, hsub.trans hsub', h⟩

end Met

theorem met_add {c : Compiler} {f : Fragment} {ps : Parts}
    (hf : c.Met (leaves f.predicate) f.requirements)
    (hps : c.Met (ps.parts.flatMap leaves) ps.requirements) :
    c.Met ((ps.add f).parts.flatMap leaves) (ps.add f).requirements := by
  have hboth := hf.append hps
  by_cases hempty : f.predicate = []
  · simpa [Parts.add, hempty] using hboth
  · simpa [Parts.add, hempty] using hboth

theorem operatorParts_spec (c : Compiler) (name : String) {operators : List (String × Node)}
    {ps : Parts} (h : c.operatorParts name operators = .ok ps) :
    ∃ os : List (Operator × Node),
      ps.parts.flatMap leaves = os.map (fun o => c.operatorLeaf name o.1 o.2) ∧
      ps.requirements = os.filterMap fun o => o.1.function?.map ServerFunction.requirement := by
  induction operators generalizing ps with
  | nil =>
      obtain rfl := Except.ok.inj h
      exact ⟨[], rfl, rfl⟩
  | cons entry rest ih =>
      obtain ⟨id, argument⟩ := entry
      rw [operatorParts] at h
      cases ho : Operator.ofId? id with
      | none =>
          rw [ho] at h
          cases h
      | some o =>
          rw [ho] at h
          obtain ⟨ps', hps', h⟩ := bind_eq_ok.1 h
          obtain rfl := Except.ok.inj h
          obtain ⟨os, hleaves, hrequirements⟩ := ih hps'
          refine ⟨(o, argument) :: os, by simp [Parts.add, hleaves], ?_⟩
          cases hf : o.function? <;> simp [Parts.add, hrequirements, hf]

theorem ids_of_operators (c : Compiler) (name : String) (os : List (Operator × Node)) :
    (os.filterMap fun o => o.1.function?.map ServerFunction.requirement).map (·.id) =
      (os.map fun o => c.operatorLeaf name o.1 o.2).filterMap (·.function) := by
  rw [List.filterMap_map, List.map_filterMap]
  congr 1
  funext o
  simp [operatorLeaf, ServerFunction.requirement, Function.comp_def]

theorem met_operatorParts (c : Compiler) (name : String) {operators : List (String × Node)}
    {ps : Parts} (h : c.operatorParts name operators = .ok ps) :
    c.Met (ps.parts.flatMap leaves) ps.requirements := by
  obtain ⟨os, hleaves, hrequirements⟩ := c.operatorParts_spec name h
  rw [hleaves, hrequirements]
  refine ⟨_, .refl _, c.ids_of_operators name os, fun l hl => ?_⟩
  obtain ⟨o, -, rfl⟩ := List.mem_map.1 hl
  exact Or.inr ⟨name, o.1, o.2, rfl⟩

theorem met_field (c : Compiler) {name : String} {node : Node} {f : Fragment}
    (h : c.field name node = .ok f) : c.Met (leaves f.predicate) f.requirements := by
  match node with
  | .value v =>
      obtain rfl := Except.ok.inj h
      exact .one (Or.inl ⟨name, v, rfl⟩) rfl
  | .document [] => cases h
  | .document (operator :: operators) =>
      obtain ⟨ps, hps, h⟩ := bind_eq_ok.1 h
      obtain rfl := Except.ok.inj h
      rw [leaves_group]
      exact c.met_operatorParts name hps
  | .list items => cases h

theorem leaves_emptyList {c : Compiler} {key : ListKeyword} {p : Predicate}
    (hp : c.emptyList key = .ok p) :
    leaves (if key = .nor then Predicate.negate p else p) = [] := by
  have hp' : leaves p = [] := by
    rw [emptyList] at hp
    cases hpolicy : c.options.emptyList <;> rw [hpolicy] at hp <;> cases hp <;> rfl
  split <;> simp [hp']

theorem met_inductive (c : Compiler) : c.Inductive
    (fun _ _ ps => c.Met (ps.parts.flatMap leaves) ps.requirements)
    (fun _ _ _ f => c.Met (leaves f.predicate) f.requirements)
    (fun _ _ es => c.Met ((es.parts.getD []).flatMap leaves) es.requirements) where
  nil := fun _ => .nil
  cons := met_add
  not := by
    intro _ _ ps h
    simpa [Parts.conjunction] using (leaves_join .and ps.parts).symm ▸ h
  empty := by
    intro _ key p hp
    rw [leaves_emptyList hp]
    exact .nil
  list := by
    intro grouped key items es _ h
    cases hparts : es.parts with
    | none => simpa [hparts] using h
    | some parts => simpa [hparts] using h
  field := c.met_field
  none := fun _ => .nil
  void := fun h _ _ => h.drop (List.nil_sublist _)
  more := by
    intro key element rest ps es hps _ hes
    have hboth := hps.append hes
    cases hparts : es.parts with
    | none => exact hboth.drop (by simp [Elements.add, hparts])
    | some parts =>
        by_cases hempty : ps.parts = []
        · simpa [Elements.add, hparts, hempty] using hboth
        · simpa [Elements.add, hparts, hempty] using hboth

/-- The leaves of a document were met with its requirements. -/
theorem met_document {c : Compiler} {d : Document} {f : Fragment} (h : c.document d = .ok f) :
    c.Met (leaves f.predicate) f.requirements := by
  obtain ⟨ps, rfl, hps⟩ := c.met_inductive.document h
  exact (leaves_join .and ps.parts).symm ▸ hps

/-- Every call in the predicate of a document is required, in the same order. -/
theorem calls_sublist {c : Compiler} {d : Document} {f : Fragment} (h : c.document d = .ok f) :
    f.predicate.calls.Sublist (f.requirements.map (·.id)) := by
  obtain ⟨met, hsub, hrs, -⟩ := met_document h
  rw [hrs, Predicate.calls_eq]
  exact hsub.filterMap _

theorem writes_of_mem {c : Compiler} {d : Document} {f : Fragment} (h : c.document d = .ok f)
    {l : Leaf} (hl : l ∈ f.predicate.leaves) : c.Writes l := by
  obtain ⟨met, hsub, -, hw⟩ := met_document h
  exact hw l (hsub.subset hl)

end Compiler
end DocQuery.Query
