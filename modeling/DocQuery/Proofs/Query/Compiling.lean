import DocQuery.Query.Compiler

/-! # How a compilation succeeds

A compilation that succeeds has visited the entries of a document and the elements of lists in
order, and has put together what it got for each. What holds of all fragments is shown by going
through the ways in which they are put together, without looking at failures.
-/

namespace DocQuery.Query

theorem bind_eq_ok {ε α β : Type} {x : Except ε α} {f : α → Except ε β} {b : β} :
    x >>= f = .ok b ↔ ∃ a, x = .ok a ∧ f a = .ok b := by
  cases x <;> simp [bind, Except.bind]

theorem exists_ok {ε α : Type} {x : Except ε α} (test : α → Bool)
    (h : x.toOption.any test = true) : ∃ a, x = .ok a ∧ test a = true := by
  cases x with
  | error e => cases h
  | ok a => exact ⟨a, rfl, h⟩

namespace Compiler

/-- What has to hold of the fragments of a compiler for all entries, documents and lists, one
condition for each way to put fragments together. -/
structure Inductive (c : Compiler) (entries : Bool → List (String × Node) → Parts → Prop)
    (entry : Bool → Keyword → Node → Fragment → Prop)
    (elements : ListKeyword → List Node → Elements → Prop) : Prop where
  nil : ∀ grouped, entries grouped [] .none
  cons : ∀ {grouped key node rest f ps}, entry grouped (Keyword.ofKey key) node f →
    entries grouped rest ps → entries grouped ((key, node) :: rest) (ps.add f)
  not : ∀ {grouped inner ps}, entries (inner.length = 1) inner ps →
    entry grouped .not (.document inner)
      ⟨Predicate.negate ps.conjunction.predicate, ps.requirements⟩
  empty : ∀ {grouped key p}, c.emptyList key = .ok p →
    entry grouped (.list key) (.list []) ⟨if key = .nor then Predicate.negate p else p, []⟩
  list : ∀ {grouped key items es}, items ≠ [] → elements key items es →
    entry grouped (.list key) (.list items)
      ⟨es.parts.elim [] (listPredicate key grouped), es.requirements⟩
  field : ∀ {grouped name node f}, c.field name node = .ok f → entry grouped (.field name) node f
  none : ∀ key, elements key [] ⟨some [], []⟩
  void : ∀ {key element rest ps}, entries false element ps → ps.parts = [] →
    key.connective = .or → elements key (.document element :: rest) ⟨Option.none, ps.requirements⟩
  more : ∀ {key element rest ps es}, entries false element ps →
    ¬ (ps.parts = [] ∧ key.connective = .or) → elements key rest es →
    elements key (.document element :: rest) (.add ps es)

variable {c : Compiler} {entries : Bool → List (String × Node) → Parts → Prop}
  {entry : Bool → Keyword → Node → Fragment → Prop}
  {elements : ListKeyword → List Node → Elements → Prop}

theorem Inductive.all (h : c.Inductive entries entry elements) :
    (∀ grouped es ps, c.entryParts grouped es = .ok ps → entries grouped es ps) ∧
    (∀ grouped keyword node f, c.entry grouped keyword node = .ok f →
      entry grouped keyword node f) ∧
    (∀ key items es, c.elementParts key items = .ok es → elements key items es) := by
  have hall := entryParts.mutual_induct
    (fun grouped es => ∀ ps, c.entryParts grouped es = .ok ps → entries grouped es ps)
    (fun grouped keyword node => ∀ f, c.entry grouped keyword node = .ok f →
      entry grouped keyword node f)
    (fun key items => ∀ es, c.elementParts key items = .ok es → elements key items es)
  refine hall ?not ?notOther ?empty ?list ?listOther ?unknown ?field ?nil ?cons ?none
    ?element ?elementValue ?elementList
  case not =>
    intro grouped inner ih f hf
    rw [Compiler.entry] at hf
    obtain ⟨ps, hps, hf⟩ := bind_eq_ok.1 hf
    obtain rfl := Except.ok.inj hf
    exact h.not (ih ps hps)
  case notOther =>
    intro grouped node hnode f hf
    rw [Compiler.entry] at hf
    · cases hf
    · exact hnode
  case empty =>
    intro grouped key f hf
    rw [Compiler.entry] at hf
    obtain ⟨p, hp, hf⟩ := bind_eq_ok.1 hf
    obtain rfl := Except.ok.inj hf
    exact h.empty hp
  case list =>
    intro grouped key items hne ih f hf
    rw [Compiler.entry] at hf
    · obtain ⟨es, hes, hf⟩ := bind_eq_ok.1 hf
      obtain rfl := Except.ok.inj hf
      exact h.list hne (ih es hes)
    · exact hne
  case listOther =>
    intro grouped key node hnil hlist f hf
    rw [Compiler.entry] at hf
    · cases hf
    · exact hnil
    · exact hlist
  case unknown =>
    intro node grouped key f hf
    rw [Compiler.entry] at hf
    cases hf
  case field =>
    intro grouped name node f hf
    rw [Compiler.entry] at hf
    exact h.field hf
  case nil =>
    intro grouped ps hps
    rw [entryParts] at hps
    obtain rfl := Except.ok.inj hps
    exact h.nil grouped
  case cons =>
    intro grouped key node rest ihnode ihrest ps hps
    rw [entryParts] at hps
    obtain ⟨f, hf, hps⟩ := bind_eq_ok.1 hps
    obtain ⟨ps', hps', hps⟩ := bind_eq_ok.1 hps
    obtain rfl := Except.ok.inj hps
    exact h.cons (ihnode f hf) (ihrest ps' hps')
  case none =>
    intro key es hes
    rw [elementParts] at hes
    obtain rfl := Except.ok.inj hes
    exact h.none key
  case element =>
    intro key element rest ihelement ihrest es hes
    rw [elementParts] at hes
    obtain ⟨ps, hps, hes⟩ := bind_eq_ok.1 hes
    by_cases hvoid : ps.parts = [] ∧ key.connective = .or
    · rw [if_pos hvoid] at hes
      obtain rfl := Except.ok.inj hes
      exact h.void (ihelement ps hps) hvoid.1 hvoid.2
    · rw [if_neg hvoid] at hes
      obtain ⟨es', hes', hes⟩ := bind_eq_ok.1 hes
      obtain rfl := Except.ok.inj hes
      exact h.more (ihelement ps hps) hvoid (ihrest es' hes')
  case elementValue =>
    intro key v rest es hes
    rw [elementParts] at hes
    cases hes
  case elementList =>
    intro key items rest es hes
    rw [elementParts] at hes
    cases hes

theorem Inductive.document (h : c.Inductive entries entry elements) {d : Document} {f : Fragment}
    (hf : c.document d = .ok f) : ∃ ps, f = ps.conjunction ∧ entries false d ps := by
  obtain ⟨ps, hps, hf⟩ := bind_eq_ok.1 hf
  exact ⟨ps, (Except.ok.inj hf).symm, h.all.1 false d ps hps⟩

end Compiler
end DocQuery.Query
