import DocQuery.Proofs.Query.Requirements

/-! # Why a filter is refused

A document is looked through in order: its entries, within them the elements of lists, and the
operators on fields. Each of these sites can be judged by itself. A compilation fails exactly if it
comes upon a defect, and then with the first one.
-/

namespace DocQuery.Query

/-- Something that is looked at by itself: an entry of a document, an element of a list, or an
operator on a field. -/
inductive Site where
  | entry (keyword : Keyword) (node : Node)
  | element (key : ListKeyword) (node : Node)
  | operator (field id : String)

namespace Site

/-- What is wrong with a site, if anything is. What lies further inside is not considered. -/
def defect? (policy : EmptyListPolicy) : Site → Option CompileError
  | .entry .not node =>
    if node.kind = .document then none else some (.malformed (.notOfDocument node.kind))
  | .entry (.list key) (.list items) =>
    if items.isEmpty ∧ policy = .reject then some (.emptyList key) else none
  | .entry (.list key) node => some (.malformed (.notList key node.kind))
  | .entry (.unknown key) _ => some (.invalidOperator key none)
  | .entry (.field _) (.value _) => none
  | .entry (.field name) (.document operators) =>
    if operators.isEmpty then some (.malformed (.noOperators name)) else none
  | .entry (.field name) (.list _) => some (.malformed (.fieldList name))
  | .element key node =>
    if node.kind = .document then none else some (.malformed (.element key node.kind))
  | .operator field id =>
    if (Operator.ofId? id).isSome then none else some (.invalidOperator id (some field))

section

variable (ends : ListKeyword → Document → Bool)

mutual

/-- The sites of a document at logical positions, in order. The visit of a list may end behind one
of its elements. -/
def entries : List (String × Node) → List Site
  | [] => []
  | (key, node) :: rest =>
    .entry (Keyword.ofKey key) node :: (within (Keyword.ofKey key) node ++ entries rest)

def within (keyword : Keyword) (node : Node) : List Site :=
  match keyword, node with
  | .not, .document d => entries d
  | .list key, .list items => elements key items
  | .field name, .document operators => operators.map fun o => .operator name o.1
  | _, _ => []

def elements (key : ListKeyword) : List Node → List Site
  | [] => []
  | .document d :: rest =>
    .element key (.document d) :: (entries d ++ if ends key d then [] else elements key rest)
  | n :: rest => .element key n :: elements key rest

end

end

end Site

def positions (d : Document) : List Site := Site.entries (fun _ _ => false) d

/-- When lists end early, some of the sites are left, in the same order. -/
theorem Site.entries_sublist (ends : ListKeyword → Document → Bool) (d : Document) :
    (entries ends d).Sublist (positions d) := by
  have hall := entries.mutual_induct
    (fun d => (entries ends d).Sublist (entries (fun _ _ => false) d))
    (fun keyword node =>
      (within ends keyword node).Sublist (within (fun _ _ => false) keyword node))
    (fun key items => (elements ends key items).Sublist (elements (fun _ _ => false) key items))
  refine (hall ?not ?list ?field ?other ?nil ?cons ?none ?element ?elementOther).1 d
  case not =>
    intro d ih
    simpa only [within] using ih
  case list =>
    intro key items ih
    simpa only [within] using ih
  case field =>
    intro name operators
    simp only [within, List.Sublist.refl]
  case other =>
    intro node keyword hnot hlist hfield
    simp only [within, List.Sublist.refl]
  case nil =>
    simp only [entries, List.Sublist.refl]
  case cons =>
    intro key node rest hnode hrest
    simp only [entries]
    exact (hnode.append hrest).cons_cons _
  case none =>
    intro key
    simp only [elements, List.Sublist.refl]
  case element =>
    intro key d rest hd hrest
    simp only [elements, Bool.false_eq_true, if_false]
    refine (hd.append ?_).cons_cons _
    split
    · exact List.nil_sublist _
    · exact hrest
  case elementOther =>
    intro key n rest hn hrest
    rw [elements, elements]
    · exact hrest.cons_cons _
    · exact hn
    · exact hn

namespace Compiler

/-! ## Whether there is a constraint -/

theorem isSome_conjoin (ms : List (Option Bool)) :
    (conjoin ms).isSome = (ms.map Option.isSome).any id := by
  have hnone : ms.all (· = none) = !(ms.map Option.isSome).any id := by
    induction ms with
    | nil => rfl
    | cons m ms ih => cases m <;> simp_all
  rw [conjoin, hnone]
  cases (ms.map Option.isSome).any id <;> rfl

theorem isSome_disjoin (ms : List (Option Bool)) :
    (disjoin ms).isSome = (ms.map Option.isSome).all id := by
  have hnone : ms.any (· = none) = !(ms.map Option.isSome).all id := by
    induction ms with
    | nil => rfl
    | cons m ms ih => cases m <;> simp_all
  rw [disjoin, hnone]
  cases (ms.map Option.isSome).all id <;> rfl

variable {c : Compiler}

/-- Whether a part places a constraint does not depend on the values of the leaves. -/
theorem isSome_meanings (c : Compiler) (v v' : Leaf → Bool) (d : Document) :
    (c.meanings v d).map Option.isSome = (c.meanings v' d).map Option.isSome := by
  have hall := meanings.mutual_induct
    (fun es => (c.meanings v es).map Option.isSome = (c.meanings v' es).map Option.isSome)
    (fun keyword node =>
      (c.entryMeaning v keyword node).isSome = (c.entryMeaning v' keyword node).isSome)
    (fun items => (c.elementMeanings v items).map Option.isSome =
      (c.elementMeanings v' items).map Option.isSome)
  refine (hall ?not ?empty ?list ?field ?other ?nil ?cons ?none ?element ?elementOther).1 d
  case not =>
    intro inner ih
    simp only [entryMeaning, Option.isSome_map, isSome_conjoin, ih]
  case empty =>
    intro key
    simp only [entryMeaning]
  case list =>
    intro key items hne ih
    rw [entryMeaning, entryMeaning]
    · cases key <;>
        simp only [listMeaning, Option.isSome_map, isSome_conjoin, isSome_disjoin, ih]
    · exact hne
    · exact hne
  case field =>
    intro name node
    cases node <;> simp [entryMeaning, fieldMeaning]
  case other =>
    intro node keyword hfield hnot hnil hlist
    simp only [entryMeaning]
  case nil =>
    simp only [meanings]
  case cons =>
    intro key node rest hnode hrest
    simp only [meanings, List.map_cons, hnode, hrest]
  case none =>
    simp only [elementMeanings]
  case element =>
    intro element rest helement hrest
    simp only [elementMeanings, List.map_cons, isSome_conjoin, helement, hrest]
  case elementOther =>
    intro n rest hn hrest
    rw [elementMeanings, elementMeanings]
    · simp only [List.map_cons, hrest]
    · exact hn
    · exact hn

theorem unconstrained_iff {d : Document} (v : Leaf → Bool) :
    c.Unconstrained d ↔ c.meaning v d = none := by
  refine ⟨fun h => h v, fun h v' => ?_⟩
  have hsome : (c.meaning v' d).isSome = (c.meaning v d).isSome := by
    rw [meaning, meaning, isSome_conjoin, isSome_conjoin, c.isSome_meanings v' v]
  rw [h] at hsome
  exact Option.isNone_iff_eq_none.1 (Option.isSome_eq_false_iff.1 hsome)

instance (d : Document) : Decidable (c.Unconstrained d) :=
  decidable_of_iff _ (unconstrained_iff fun _ => true).symm

/-- The sites of a document that are visited when it is compiled. The visit of a list of
alternatives ends behind the first one that places no constraint. -/
def visited (c : Compiler) : Document → List Site :=
  Site.entries fun key d => key.connective = .or ∧ c.Unconstrained d

theorem parts_eq_nil_iff {grouped : Bool} {d : Document} {ps : Parts}
    (h : c.entryParts grouped d = .ok ps) : ps.parts = [] ↔ c.Unconstrained d := by
  have heach := (c.says_inductive.all.1 grouped d ps h).2
  exact ((unconstrained_iff fun _ => true).trans (heach.conjoin_eq_none _)).symm

end Compiler

/-! ## The first defect -/

def firstDefect? (policy : EmptyListPolicy) (ss : List Site) : Option CompileError :=
  ss.findSome? (Site.defect? policy)

section

variable {policy : EmptyListPolicy}

@[simp] theorem firstDefect?_nil : firstDefect? policy [] = none := rfl

theorem firstDefect?_cons (s : Site) (ss : List Site) :
    firstDefect? policy (s :: ss) = (s.defect? policy).or (firstDefect? policy ss) := by
  rw [firstDefect?, List.findSome?_cons]
  cases s.defect? policy <;> rfl

theorem firstDefect?_append (ss ss' : List Site) :
    firstDefect? policy (ss ++ ss') = (firstDefect? policy ss).or (firstDefect? policy ss') :=
  List.findSome?_append

end

def refusal? {α : Type} : Except CompileError α → Option CompileError
  | .ok _ => none
  | .error e => some e

section

variable {α β γ : Type}

@[simp] theorem refusal?_ok (a : α) : refusal? (.ok a) = none := rfl

@[simp] theorem refusal?_error (e : CompileError) : refusal? (.error e : Except _ α) = some e := rfl

@[simp] theorem refusal?_pure (a : α) : refusal? (pure a) = none := rfl

theorem refusal?_eq_some {x : Except CompileError α} {e : CompileError} :
    refusal? x = some e ↔ x = .error e := by
  cases x <;> simp

theorem refusal?_eq_none {x : Except CompileError α} : refusal? x = none ↔ ∃ a, x = .ok a := by
  cases x <;> simp

theorem refusal?_bind (x : Except CompileError α) {f : α → Except CompileError β}
    {next : Option CompileError} (h : ∀ a, x = .ok a → refusal? (f a) = next) :
    refusal? (x >>= f) = (refusal? x).or next := by
  cases x with
  | error e => rfl
  | ok a => exact h a rfl

theorem refusal?_bind_pure (x : Except CompileError α) (f : α → β) :
    refusal? (x >>= fun a => pure (f a)) = refusal? x := by
  cases x <;> rfl

end

namespace Compiler

variable {c : Compiler}

theorem refusal?_operatorParts (c : Compiler) (policy : EmptyListPolicy) (name : String)
    (operators : List (String × Node)) :
    refusal? (c.operatorParts name operators) =
      firstDefect? policy (operators.map fun o => .operator name o.1) := by
  induction operators with
  | nil => rfl
  | cons o rest ih =>
      obtain ⟨id, argument⟩ := o
      rw [operatorParts, List.map_cons, firstDefect?_cons, ← ih]
      cases ho : Operator.ofId? id with
      | none => simp [Site.defect?, ho]
      | some op =>
          simp only [Site.defect?, ho, Option.isSome_some, if_true, Option.none_or]
          exact refusal?_bind_pure _ _

theorem refusal?_field (c : Compiler) (policy : EmptyListPolicy)
    (ends : ListKeyword → Document → Bool) (name : String) (node : Node) :
    refusal? (c.field name node) =
      firstDefect? policy (.entry (.field name) node :: Site.within ends (.field name) node) := by
  rw [firstDefect?_cons]
  match node with
  | .value v => simp [field, Site.defect?, Site.within]
  | .document [] => simp [field, Site.defect?, Site.within]
  | .document (o :: os) =>
      have hfine : Site.defect? policy (.entry (.field name) (.document (o :: os))) = none := rfl
      rw [hfine, Option.none_or, Site.within, ← c.refusal?_operatorParts]
      exact refusal?_bind_pure _ _
  | .list items => simp [field, Site.defect?, Site.within]

theorem refusal?_emptyList (c : Compiler) (key : ListKeyword) :
    refusal? (c.emptyList key) =
      Site.defect? c.options.emptyList (.entry (.list key) (.list [])) := by
  rw [emptyList]
  cases hpolicy : c.options.emptyList <;> simp [Site.defect?]

/-- A compilation that fails has come upon a defect, and the first one is its error. -/
theorem refusal?_entryParts (c : Compiler) (grouped : Bool) (d : Document) :
    refusal? (c.entryParts grouped d) = firstDefect? c.options.emptyList (c.visited d) := by
  let ends : ListKeyword → Document → Bool := fun key d => key.connective = .or ∧ c.Unconstrained d
  have hall := entryParts.mutual_induct
    (fun grouped d => refusal? (c.entryParts grouped d) =
      firstDefect? c.options.emptyList (Site.entries ends d))
    (fun grouped keyword node => refusal? (c.entry grouped keyword node) =
      firstDefect? c.options.emptyList (.entry keyword node :: Site.within ends keyword node))
    (fun key items => refusal? (c.elementParts key items) =
      firstDefect? c.options.emptyList (Site.elements ends key items))
  refine (hall ?not ?notOther ?empty ?list ?listOther ?unknown ?field ?nil ?cons ?none
    ?element ?elementValue ?elementList).1 grouped d
  case not =>
    intro grouped inner ih
    rw [entry, refusal?_bind_pure, ih, firstDefect?_cons, Site.within]
    rfl
  case notOther =>
    intro grouped node hnode
    rw [entry, firstDefect?_cons]
    · cases node with
      | document d => exact absurd rfl (hnode d)
      | value v => rfl
      | list items => rfl
    · exact hnode
  case empty =>
    intro grouped key
    rw [entry, refusal?_bind_pure, refusal?_emptyList, firstDefect?_cons, Site.within,
      Site.elements, firstDefect?_nil, Option.or_none]
  case list =>
    intro grouped key items hne ih
    have hitems : items.isEmpty = false := List.isEmpty_eq_false_iff.2 hne
    have hfine : Site.defect? c.options.emptyList (.entry (.list key) (.list items)) = none := by
      simp [Site.defect?, hitems]
    rw [entry, refusal?_bind_pure, ih, firstDefect?_cons, hfine, Option.none_or, Site.within]
    exact hne
  case listOther =>
    intro grouped key node hnil hlist
    rw [entry, firstDefect?_cons]
    · cases node with
      | list items => exact absurd rfl (hlist items)
      | value v => rfl
      | document d => rfl
    · exact hnil
    · exact hlist
  case unknown =>
    intro node grouped key
    rw [entry, firstDefect?_cons]
    rfl
  case field =>
    intro grouped name node
    rw [entry]
    exact c.refusal?_field _ ends name node
  case nil =>
    intro grouped
    rw [entryParts, Site.entries]
    rfl
  case cons =>
    intro grouped key node rest hnode hrest
    rw [entryParts, Site.entries, ← List.cons_append, firstDefect?_append, ← hnode, ← hrest]
    exact refusal?_bind _ fun f _ => refusal?_bind_pure _ _
  case none =>
    intro key
    rw [elementParts, Site.elements]
    rfl
  case element =>
    intro key element rest helement hrest
    have hfine : Site.defect? c.options.emptyList (.element key (.document element)) = none := rfl
    rw [elementParts, Site.elements, firstDefect?_cons, hfine, Option.none_or, firstDefect?_append,
      ← helement]
    refine refusal?_bind _ fun ps hps => ?_
    -- Whether the visit ends here is told by what the element placed.
    have hends : (ps.parts = [] ∧ key.connective = .or) ↔ ends key element = true := by
      rw [parts_eq_nil_iff hps, decide_eq_true_iff, and_comm]
    by_cases hvoid : ps.parts = [] ∧ key.connective = .or
    · rw [if_pos hvoid, if_pos (hends.1 hvoid)]
      rfl
    · rw [if_neg hvoid, if_neg (mt hends.2 hvoid), ← hrest]
      exact refusal?_bind_pure _ _
  case elementValue =>
    intro key v rest
    rw [elementParts, Site.elements, firstDefect?_cons]
    · rfl
    · simp
  case elementList =>
    intro key items rest
    rw [elementParts, Site.elements, firstDefect?_cons]
    · rfl
    · simp

end Compiler

/-- A document without a defect at any logical position is accepted. A document is refused with
exactly the first defect that is met when its entries, the elements of lists and the operators are
visited in order, where the visit of a list of alternatives ends behind the first one that places no
constraint. -/
theorem refused_for_first_defect (c : Compiler) (d : Document) :
    ((∀ s ∈ positions d, s.defect? c.options.emptyList = none) →
      ∃ q, c.compile (.document d) = .ok q) ∧
    ∀ e, c.compile (.document d) = .error e ↔
      firstDefect? c.options.emptyList (c.visited d) = some e := by
  have hrefusal : refusal? (c.compile (.document d)) =
      firstDefect? c.options.emptyList (c.visited d) := by
    rw [← c.refusal?_entryParts false d, Compiler.compile, refusal?_bind_pure, Compiler.document,
      refusal?_bind_pure]
  refine ⟨fun hfine => ?_, fun e => ?_⟩
  · rw [← refusal?_eq_none, hrefusal]
    refine List.findSome?_eq_none_iff.2 fun s hs => hfine s ?_
    exact (Site.entries_sublist _ d).subset hs
  · rw [← refusal?_eq_some, hrefusal]

/-- A number behind an empty alternative is not met. The unknown operator is, before the list. -/
example : firstDefect? .skip ((default : Compiler).visited
    [("$or", .list [.document [], .value (.int 5)]), ("a", .document [("$x", .value .null)]),
      ("b", .list [])]) = some (.invalidOperator "$x" (some "a")) := by decide +kernel

end DocQuery.Query
