import DocQuery.Proofs.Query.Defects

/-! # Policies for empty lists

A compiler that refuses empty lists and one with another policy do the same until the first comes
upon an empty list. So whatever it accepts the others accept with the same query, and on documents
without empty lists all policies agree, also in what they refuse.
-/

namespace DocQuery.Query

section

variable {α β : Type}

/-- A strict run that ends as the other one, unless it has come upon an empty list. -/
def AgreeUnlessEmpty (strict other : Except CompileError α) : Prop :=
  strict = other ∨ ∃ key, strict = .error (.emptyList key)

theorem AgreeUnlessEmpty.refl (x : Except CompileError α) : AgreeUnlessEmpty x x := .inl rfl

theorem AgreeUnlessEmpty.bind {strict other : Except CompileError α}
    {next next' : α → Except CompileError β} (h : AgreeUnlessEmpty strict other)
    (hnext : ∀ a, AgreeUnlessEmpty (next a) (next' a)) :
    AgreeUnlessEmpty (strict >>= next) (other >>= next') := by
  rcases h with rfl | ⟨key, rfl⟩
  · cases strict with
    | error e => exact .refl _
    | ok a => exact hnext a
  · exact .inr ⟨key, rfl⟩

end

namespace Compiler

variable {c c' : Compiler}

theorem operatorParts_congr (hdialect : c.dialect = c'.dialect) (name : String)
    (operators : List (String × Node)) :
    c.operatorParts name operators = c'.operatorParts name operators := by
  induction operators with
  | nil => rfl
  | cons o rest ih =>
      obtain ⟨id, argument⟩ := o
      simp only [operatorParts, ih, operatorLeaf, hdialect]

theorem field_congr (hdialect : c.dialect = c'.dialect) (name : String) (node : Node) :
    c.field name node = c'.field name node := by
  match node with
  | .value v => simp only [field, equalityLeaf, hdialect]
  | .document [] => rfl
  | .document (o :: os) => simp only [field, operatorParts_congr hdialect]
  | .list items => rfl

variable (hdialect : c.dialect = c'.dialect) (hstrict : c.options.emptyList = .reject)
include hdialect hstrict

theorem agreeUnlessEmpty_entryParts (grouped : Bool) (d : Document) :
    AgreeUnlessEmpty (c.entryParts grouped d) (c'.entryParts grouped d) := by
  have hall := entryParts.mutual_induct
    (fun grouped d => AgreeUnlessEmpty (c.entryParts grouped d) (c'.entryParts grouped d))
    (fun grouped keyword node =>
      AgreeUnlessEmpty (c.entry grouped keyword node) (c'.entry grouped keyword node))
    (fun key items => AgreeUnlessEmpty (c.elementParts key items) (c'.elementParts key items))
  refine (hall ?not ?notOther ?empty ?list ?listOther ?unknown ?field ?nil ?cons ?none
    ?element ?elementValue ?elementList).1 grouped d
  case not =>
    intro grouped inner ih
    rw [entry, entry]
    exact ih.bind fun _ => .refl _
  case notOther =>
    intro grouped node hnode
    rw [entry, entry]
    · exact .refl _
    · exact hnode
    · exact hnode
  case empty =>
    intro grouped key
    -- Nowhere else is the policy asked.
    rw [entry, emptyList, hstrict]
    exact .inr ⟨key, rfl⟩
  case list =>
    intro grouped key items hne ih
    rw [entry, entry]
    · exact ih.bind fun _ => .refl _
    · exact hne
    · exact hne
  case listOther =>
    intro grouped key node hnil hlist
    rw [entry, entry]
    · exact .refl _
    all_goals assumption
  case unknown =>
    intro node grouped key
    rw [entry, entry]
    exact .refl _
  case field =>
    intro grouped name node
    rw [entry, entry, field_congr hdialect]
    exact .refl _
  case nil =>
    intro grouped
    rw [entryParts, entryParts]
    exact .refl _
  case cons =>
    intro grouped key node rest hnode hrest
    rw [entryParts, entryParts]
    exact hnode.bind fun _ => hrest.bind fun _ => .refl _
  case none =>
    intro key
    rw [elementParts, elementParts]
    exact .refl _
  case element =>
    intro key element rest helement hrest
    rw [elementParts, elementParts]
    refine helement.bind fun ps => ?_
    by_cases hvoid : ps.parts = [] ∧ key.connective = .or
    · rw [if_pos hvoid, if_pos hvoid]
      exact .refl _
    · rw [if_neg hvoid, if_neg hvoid]
      exact hrest.bind fun _ => .refl _
  case elementValue =>
    intro key v rest
    rw [elementParts, elementParts]
    exact .refl _
  case elementList =>
    intro key items rest
    rw [elementParts, elementParts]
    exact .refl _

theorem agreeUnlessEmpty_compile (f : Filter) :
    AgreeUnlessEmpty (c.compile f) (c'.compile f) := by
  cases f with
  | raw predicate =>
      rw [compile, compile, hdialect]
      exact .refl _
  | document d =>
      rw [compile, compile, document, document, hdialect]
      refine ((agreeUnlessEmpty_entryParts hdialect hstrict false d).bind fun _ => .refl _).bind ?_
      exact fun _ => .refl _

end Compiler

/-- Nothing but an empty list is refused as one. -/
theorem Site.eq_of_defect?_emptyList {policy : EmptyListPolicy} {s : Site} {key : ListKeyword}
    (h : s.defect? policy = some (.emptyList key)) : s = .entry (.list key) (.list []) := by
  unfold Site.defect? at h
  grind

theorem Compiler.emptyList_mem_positions {c : Compiler} {d : Document} {key : ListKeyword}
    (h : c.compile (.document d) = .error (.emptyList key)) :
    Site.entry (.list key) (.list []) ∈ positions d := by
  have hrefusal : firstDefect? c.options.emptyList (c.visited d) = some (.emptyList key) := by
    rw [← c.refusal?_entryParts false d, ← refusal?_bind_pure, ← refusal?_bind_pure]
    exact refusal?_eq_some.2 h
  obtain ⟨s, hs, hdefect⟩ := List.exists_of_findSome?_eq_some hrefusal
  exact Site.eq_of_defect?_emptyList hdefect ▸ (Site.entries_sublist _ d).subset hs

/-- Whatever is accepted when empty lists are refused is accepted with the same query under every
policy, so what fails under any policy fails there too. Without an empty list at a logical position
all policies give the same result, also when it is a refusal. -/
theorem policies_differ_on_empty_lists_only (dialect : Dialect) (policy : EmptyListPolicy)
    (f : Filter) :
    (∀ q, Compiler.compile ⟨dialect, ⟨.reject⟩⟩ f = .ok q →
      Compiler.compile ⟨dialect, ⟨policy⟩⟩ f = .ok q) ∧
    (∀ e, Compiler.compile ⟨dialect, ⟨policy⟩⟩ f = .error e →
      ∃ e', Compiler.compile ⟨dialect, ⟨.reject⟩⟩ f = .error e') ∧
    ∀ d, f = .document d → (∀ key, Site.entry (.list key) (.list []) ∉ positions d) →
      Compiler.compile ⟨dialect, ⟨.reject⟩⟩ f = Compiler.compile ⟨dialect, ⟨policy⟩⟩ f := by
  have hagree : AgreeUnlessEmpty (Compiler.compile ⟨dialect, ⟨.reject⟩⟩ f)
      (Compiler.compile ⟨dialect, ⟨policy⟩⟩ f) := by
    apply Compiler.agreeUnlessEmpty_compile
    · rfl
    · rfl
  refine ⟨fun q hq => ?_, fun e he => ?_, ?_⟩
  · rcases hagree with heq | ⟨key, hempty⟩
    · exact heq ▸ hq
    · rw [hempty] at hq
      cases hq
  · rcases hagree with heq | ⟨key, hempty⟩
    · exact ⟨e, heq.trans he⟩
    · exact ⟨_, hempty⟩
  · rintro d rfl hnone
    rcases hagree with heq | ⟨key, hempty⟩
    · exact heq
    · exact absurd (Compiler.emptyList_mem_positions hempty) (hnone key)

/-- On an empty list the three policies come to three different ends. -/
example :
    Compiler.compile ⟨.standard, ⟨.skip⟩⟩ (.document [("$or", .list [])]) =
      .ok ⟨"SELECT * FROM root r", []⟩ ∧
    Compiler.compile ⟨.standard, ⟨.literal⟩⟩ (.document [("$or", .list [])]) =
      .ok ⟨"SELECT * FROM root r WHERE false", []⟩ ∧
    Compiler.compile ⟨.standard, ⟨.reject⟩⟩ (.document [("$or", .list [])]) =
      .error (.emptyList .or) := by decide +kernel

end DocQuery.Query
