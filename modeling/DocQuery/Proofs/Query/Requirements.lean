import DocQuery.Proofs.Cache
import DocQuery.Proofs.Query.Meaning

/-! # What a query requires

A query requires the functions of all operators that were met. What stands in a list of alternatives
that turned out to place no constraint is not called; everything else is called, in the order in
which it is required.
-/

namespace DocQuery.Query

namespace Compiler

open Predicate (leaves leaves_join leaves_group)

def Unconstrained (c : Compiler) (d : Document) : Prop := ∀ v, c.meaning v d = none

/-- Elements of which none makes the whole list void. -/
def Clear (c : Compiler) (key : ListKeyword) (items : List Node) : Prop :=
  key.connective = .or → ∀ x, .document x ∈ items → ¬ c.Unconstrained x

theorem clear_nil (c : Compiler) (key : ListKeyword) : c.Clear key [] := by simp [Clear]

theorem clear_cons {c : Compiler} {key : ListKeyword} {e : Document} {items : List Node} :
    c.Clear key (.document e :: items) ↔
      (key.connective = .or → ¬ c.Unconstrained e) ∧ c.Clear key items := by
  simp [Clear, or_imp, forall_and]

/-- The lists that are visited when a document is compiled, each with its keyword. In a list of
alternatives nothing is visited behind one without a constraint. -/
inductive Visits (c : Compiler) : Document → ListKeyword → List Node → Prop
  | list {d : Document} {name : String} {key : ListKeyword} {items : List Node} :
      (name, .list items) ∈ d → Keyword.ofKey name = .list key → Visits c d key items
  | not {d inner : Document} {name : String} {key : ListKeyword} {items : List Node} :
      (name, .document inner) ∈ d → Keyword.ofKey name = .not → Visits c inner key items →
      Visits c d key items
  | element {d e : Document} {name : String} {outer key : ListKeyword}
      {before after items : List Node} :
      (name, .list (before ++ .document e :: after)) ∈ d → Keyword.ofKey name = .list outer →
      c.Clear outer before → Visits c e key items → Visits c d key items

def AlternativesConstrain (c : Compiler) (d : Document) : Prop :=
  ∀ key items, c.Visits d key items → c.Clear key items

variable {c : Compiler}

theorem Visits.mono {d d' : Document} {key : ListKeyword} {items : List Node}
    (h : c.Visits d key items) (hsub : d ⊆ d') : c.Visits d' key items := by
  cases h with
  | list hm hkey => exact .list (hsub hm) hkey
  | not hm hkey hv => exact .not (hsub hm) hkey hv
  | element hm hkey hbefore hv => exact .element (hsub hm) hkey hbefore hv

/-- Where a list is visited there is some key besides fields. -/
theorem Visits.keyword {d : Document} {key : ListKeyword} {items : List Node}
    (h : c.Visits d key items) : ∃ entry ∈ d, ∀ name, Keyword.ofKey entry.1 ≠ .field name := by
  cases h with
  | list hm hkey => exact ⟨_, hm, by simp [hkey]⟩
  | not hm hkey _ => exact ⟨_, hm, by simp [hkey]⟩
  | element hm hkey _ _ => exact ⟨_, hm, by simp [hkey]⟩

namespace AlternativesConstrain

theorem mono {d d' : Document} (h : c.AlternativesConstrain d) (hsub : d' ⊆ d) :
    c.AlternativesConstrain d' :=
  fun key items hv => h key items (hv.mono hsub)

theorem not {name : String} {inner : Document}
    (h : c.AlternativesConstrain [(name, .document inner)]) (hkey : Keyword.ofKey name = .not) :
    c.AlternativesConstrain inner :=
  fun key items hv => h key items (.not (List.mem_singleton.2 rfl) hkey hv)

/-- The same in all elements of a list: none of them stands behind an alternative without a
constraint. -/
theorem list {name : String} {key : ListKeyword} {items : List Node}
    (h : c.AlternativesConstrain [(name, .list items)]) (hkey : Keyword.ofKey name = .list key) :
    c.Clear key items ∧ ∀ e, .document e ∈ items → c.AlternativesConstrain e := by
  have hall := h key items (.list (List.mem_singleton.2 rfl) hkey)
  refine ⟨hall, fun e he key' items' hv => ?_⟩
  obtain ⟨before, after, rfl⟩ := List.append_of_mem he
  have hbefore : c.Clear key before := fun hor x hx => hall hor x (List.mem_append_left _ hx)
  exact h key' items' (.element (List.mem_singleton.2 rfl) hkey hbefore hv)

end AlternativesConstrain

/-! ## What is called and what is required -/

def Balanced (ls : List Leaf) (rs : List Requirement) : Prop :=
  ls.filterMap (·.function) = rs.map (·.id)

theorem Balanced.append {ls ls' : List Leaf} {rs rs' : List Requirement} (h : Balanced ls rs)
    (h' : Balanced ls' rs') : Balanced (ls ++ ls') (rs ++ rs') := by
  rw [Balanced, List.filterMap_append, List.map_append, h, h']

theorem balanced_field {name : String} {node : Node} {f : Fragment}
    (h : c.field name node = .ok f) : Balanced (leaves f.predicate) f.requirements := by
  match node with
  | .value v =>
      obtain rfl := Except.ok.inj h
      rfl
  | .document [] => cases h
  | .document (operator :: operators) =>
      obtain ⟨ps, hps, h⟩ := bind_eq_ok.1 h
      obtain rfl := Except.ok.inj h
      obtain ⟨os, hleaves, hrequirements⟩ := c.operatorParts_spec name hps
      rw [leaves_group, hleaves, hrequirements]
      exact (c.ids_of_operators name os).symm
  | .list items => cases h

def OfOperators (rs : List Requirement) : Prop :=
  ∀ r ∈ rs, ∃ f : ServerFunction, r = f.requirement

theorem OfOperators.append {rs rs' : List Requirement} (h : OfOperators rs)
    (h' : OfOperators rs') : OfOperators (rs ++ rs') := by
  intro r hr
  rcases List.mem_append.1 hr with hr | hr
  · exact h r hr
  · exact h' r hr

theorem ofOperators_field {name : String} {node : Node} {f : Fragment}
    (h : c.field name node = .ok f) : OfOperators f.requirements := by
  match node with
  | .value v =>
      obtain rfl := Except.ok.inj h
      simp [OfOperators]
  | .document [] => cases h
  | .document (operator :: operators) =>
      obtain ⟨ps, hps, h⟩ := bind_eq_ok.1 h
      obtain rfl := Except.ok.inj h
      obtain ⟨os, -, hrequirements⟩ := c.operatorParts_spec name hps
      intro r hr
      rw [hrequirements] at hr
      obtain ⟨o, -, ho⟩ := List.mem_filterMap.1 hr
      obtain ⟨f, -, rfl⟩ := Option.map_eq_some_iff.1 ho
      exact ⟨f, rfl⟩
  | .list items => cases h

theorem ofOperators_inductive (c : Compiler) : c.Inductive
    (fun _ _ ps => OfOperators ps.requirements) (fun _ _ _ f => OfOperators f.requirements)
    (fun _ _ es => OfOperators es.requirements) where
  nil := fun _ _ => by simp [Parts.none]
  cons := fun hf hps => hf.append hps
  not := fun hps => hps
  empty := fun _ _ => by simp
  list := fun _ hes => hes
  field := ofOperators_field
  none := fun _ _ => by simp
  void := fun hps _ _ => hps
  more := fun hps _ hes => hps.append hes

theorem ofOperators_document {d : Document} {f : Fragment} (h : c.document d = .ok f) :
    OfOperators f.requirements := by
  obtain ⟨ps, rfl, hps⟩ := c.ofOperators_inductive.document h
  exact hps

end Compiler

end DocQuery.Query
