import DocQuery.Proofs.Query.Compiling
import Mathlib.Data.List.Nodup

/-! # Two spellings of a negated disjunction

`$nor` demands what `$not` over `$or` demands. A list under `$nor` is negated as it stands, while
`$not` compiles a document of its own, whose only key is then `$or`. A document in which every
`$nor`, at whatever depth, is spelled out gives the same query, or is refused for the same reason up
to the name of the keyword.
-/

namespace DocQuery.Query

/-! ## Spelling out -/

def ListKeyword.spelledOut : ListKeyword → ListKeyword
  | .nor => .or
  | key => key

/-- A refusal with `$nor` read as `$or`. -/
def CompileError.spelledOut : CompileError → CompileError
  | .malformed (.notList key found) => .malformed (.notList key.spelledOut found)
  | .malformed (.element key found) => .malformed (.element key.spelledOut found)
  | .emptyList key => .emptyList key.spelledOut
  | e => e

mutual

/-- The entries of a document with every `$nor` at a logical position spelled as `$not` over `$or`,
in its place. -/
def spellOut : List (String × Node) → List (String × Node)
  | [] => []
  | (key, node) :: rest => spellOutEntry key (Keyword.ofKey key) node :: spellOut rest

/-- One entry. What a field holds is left alone, and so is what a keyword does not allow. -/
def spellOutEntry (key : String) (keyword : Keyword) (node : Node) : String × Node :=
  match keyword, node with
  | .not, .document inner => (key, .document (spellOut inner))
  | .list .nor, .list items => ("$not", .document [("$or", .list (spellOutElements items))])
  | .list .nor, node => ("$not", .document [("$or", node)])
  | .list _, .list items => (key, .list (spellOutElements items))
  | _, node => (key, node)

def spellOutElements : List Node → List Node
  | [] => []
  | .document element :: rest => .document (spellOut element) :: spellOutElements rest
  | n :: rest => n :: spellOutElements rest

end

theorem ofKey_not : Keyword.ofKey "$not" = .not := by decide

theorem ofKey_or : Keyword.ofKey "$or" = .list .or := by decide

theorem ListKeyword.spelledOut_of_ne {key : ListKeyword} (h : key ≠ .nor) :
    key.spelledOut = key := by
  cases key with
  | nor => exact absurd rfl h
  | and => rfl
  | or => rfl

theorem ListKeyword.connective_spelledOut (key : ListKeyword) :
    key.spelledOut.connective = key.connective := by
  cases key <;> rfl

theorem length_spellOut (es : List (String × Node)) : (spellOut es).length = es.length := by
  induction es with
  | nil => rfl
  | cons e es ih =>
      obtain ⟨key, node⟩ := e
      simp only [spellOut, List.length_cons, ih]

theorem mapError_bind {α β : Type} {x : Except CompileError α} {r : CompileError → CompileError}
    (f : α → Except CompileError β) :
    (x >>= f).mapError r = x.mapError r >>= fun a => (f a).mapError r := by
  cases x <;> rfl

namespace Compiler

variable (c : Compiler)

theorem mapError_operatorParts (name : String) (operators : List (String × Node)) :
    (c.operatorParts name operators).mapError CompileError.spelledOut =
      c.operatorParts name operators := by
  induction operators with
  | nil => rfl
  | cons o rest ih =>
      obtain ⟨id, argument⟩ := o
      rw [operatorParts]
      cases Operator.ofId? id with
      | none => rfl
      | some op =>
          simp only [mapError_bind, ih]
          rfl

theorem mapError_field (name : String) (node : Node) :
    (c.field name node).mapError CompileError.spelledOut = c.field name node := by
  match node with
  | .value v => rfl
  | .document [] => rfl
  | .document (o :: os) =>
      rw [field]
      · simp only [mapError_bind, mapError_operatorParts]
        rfl
      · simp
  | .list items => rfl

theorem mapError_emptyList (key : ListKeyword) :
    (c.emptyList key).mapError CompileError.spelledOut = c.emptyList key.spelledOut := by
  unfold emptyList
  cases c.options.emptyList <;> cases key <;> rfl

/-- A document under `$not` whose only key is `$or` is a list that the negation groups. -/
theorem entry_not_or (grouped : Bool) (node : Node) :
    c.entry grouped .not (.document [("$or", node)]) = (do
      let f ← c.entry true (.list .or) node
      return ⟨f.predicate.negate, f.requirements⟩) := by
  have hsingle : decide ([("$or", node)].length = 1) = true := rfl
  rw [entry, entryParts, entryParts, ofKey_or, hsingle]
  cases c.entry true (.list .or) node with
  | error e => rfl
  | ok f =>
      have hpredicate : (Parts.none.add f).conjunction.predicate = f.predicate := by
        by_cases hempty : f.predicate = [] <;>
          simp [Parts.none, Parts.add, Parts.conjunction, Predicate.join, hempty]
      have hrequirements : (Parts.none.add f).requirements = f.requirements := List.append_nil _
      show Except.ok _ = Except.ok _
      rw [hpredicate, hrequirements]

theorem entry_list (grouped : Bool) (key : ListKeyword) {items : List Node} (hne : items ≠ []) :
    c.entry grouped (.list key) (.list items) = (do
      let es ← c.elementParts key items
      return ⟨es.parts.elim [] (listPredicate key grouped), es.requirements⟩) := by
  rw [entry]
  exact hne

/-- `$nor` negates what `$or` demands where the negation groups it. -/
theorem negate_listPredicate_or (grouped : Bool) (parts : Option (List Predicate)) :
    Predicate.negate (parts.elim [] (listPredicate .or true)) =
      parts.elim [] (listPredicate .nor grouped) := by
  cases parts <;> rfl

theorem entry_spellOut_list (grouped : Bool) {name : String} {key : ListKeyword}
    {items : List Node} (hname : Keyword.ofKey name = .list key)
    (helements : c.elementParts key.spelledOut (spellOutElements items) =
      (c.elementParts key items).mapError CompileError.spelledOut) :
    c.entry grouped (Keyword.ofKey (spellOutEntry name (.list key) (.list items)).1)
        (spellOutEntry name (.list key) (.list items)).2 =
      (c.entry grouped (.list key) (.list items)).mapError CompileError.spelledOut := by
  have hempty := c.mapError_emptyList key
  by_cases hnor : key = .nor
  · subst hnor
    rw [spellOutEntry, ofKey_not, entry_not_or]
    rw [ListKeyword.spelledOut] at hempty helements
    cases items with
    | nil =>
        rw [spellOutElements, entry, entry, mapError_bind, hempty]
        cases c.emptyList .or <;> rfl
    | cons n rest =>
        have hne : spellOutElements (n :: rest) ≠ [] := by cases n <;> simp [spellOutElements]
        rw [c.entry_list _ _ hne, c.entry_list _ _ (List.cons_ne_nil n rest), mapError_bind,
          ← helements]
        cases c.elementParts .or (spellOutElements (n :: rest)) with
        | error e => rfl
        | ok es =>
            show Except.ok _ = Except.ok _
            rw [negate_listPredicate_or grouped]
  · rw [ListKeyword.spelledOut_of_ne hnor] at hempty helements
    rw [spellOutEntry, hname]
    · cases items with
      | nil =>
          rw [spellOutElements, entry, mapError_bind, hempty]
          rfl
      | cons n rest =>
          have hne : spellOutElements (n :: rest) ≠ [] := by cases n <;> simp [spellOutElements]
          rw [c.entry_list _ _ hne, c.entry_list _ _ (List.cons_ne_nil n rest), mapError_bind,
            ← helements]
          rfl
    · exact hnor

theorem entryParts_spellOut (grouped : Bool) (d : Document) :
    c.entryParts grouped (spellOut d) =
      (c.entryParts grouped d).mapError CompileError.spelledOut := by
  -- The induction follows the document as it was. Spelling out keeps the number of entries, so that
  -- a document under `$not` is grouped as before.
  have hall := entryParts.mutual_induct
    (fun grouped es => c.entryParts grouped (spellOut es) =
      (c.entryParts grouped es).mapError CompileError.spelledOut)
    (fun grouped keyword node => ∀ name, Keyword.ofKey name = keyword →
      c.entry grouped (Keyword.ofKey (spellOutEntry name keyword node).1)
        (spellOutEntry name keyword node).2 =
      (c.entry grouped keyword node).mapError CompileError.spelledOut)
    (fun key items => c.elementParts key.spelledOut (spellOutElements items) =
      (c.elementParts key items).mapError CompileError.spelledOut)
  refine (hall ?not ?notOther ?empty ?list ?listOther ?unknown ?field ?nil ?cons ?none
    ?element ?elementValue ?elementList).1 grouped d
  case not =>
    intro grouped inner ih name hname
    rw [spellOutEntry, hname, entry, entry, length_spellOut, ih, mapError_bind]
    rfl
  case notOther =>
    intro grouped node hnode name hname
    cases node with
    | document inner => exact absurd rfl (hnode inner)
    | value v =>
        simp only [spellOutEntry, hname, entry]
        rfl
    | list items =>
        simp only [spellOutEntry, hname, entry]
        rfl
  case empty =>
    intro grouped key name hname
    refine c.entry_spellOut_list grouped hname ?_
    rw [spellOutElements, elementParts, elementParts]
    rfl
  case list =>
    intro grouped key items hne ih name hname
    exact c.entry_spellOut_list grouped hname ih
  case listOther =>
    intro grouped key node hnil hlist name hname
    cases node with
    | list items => exact absurd rfl (hlist items)
    | value v =>
        cases key <;> simp only [spellOutEntry, hname, ofKey_not, entry_not_or, entry] <;> rfl
    | document d =>
        cases key <;> simp only [spellOutEntry, hname, ofKey_not, entry_not_or, entry] <;> rfl
  case unknown =>
    intro node grouped key name hname
    simp only [spellOutEntry, hname, entry]
    rfl
  case field =>
    intro grouped name node key hkey
    simp only [spellOutEntry, hkey, entry, mapError_field]
  case nil =>
    intro grouped
    rw [spellOut, entryParts]
    rfl
  case cons =>
    intro grouped key node rest hnode hrest
    simp only [spellOut, entryParts, hnode key rfl, hrest, mapError_bind]
    rfl
  case none =>
    intro key
    rw [spellOutElements, elementParts, elementParts]
    rfl
  case element =>
    intro key element rest helement hrest
    rw [spellOutElements, elementParts, elementParts, helement, hrest,
      key.connective_spelledOut, mapError_bind]
    congr 1
    funext ps
    by_cases hvoid : ps.parts = [] ∧ key.connective = .or
    · rw [if_pos hvoid, if_pos hvoid]
      rfl
    · rw [if_neg hvoid, if_neg hvoid, mapError_bind]
      rfl
  case elementValue =>
    intro key v rest
    simp only [spellOutElements, elementParts]
    rfl
  case elementList =>
    intro key items rest
    simp only [spellOutElements, elementParts]
    rfl

end Compiler

/-! ## Documents within documents -/

mutual

def documentsIn : List (String × Node) → List Document
  | [] => []
  | (key, node) :: rest => documentsUnder (Keyword.ofKey key) node ++ documentsIn rest

def documentsUnder (keyword : Keyword) (node : Node) : List Document :=
  match keyword, node with
  | .not, .document inner => inner :: documentsIn inner
  | .list _, .list items => documentsAmong items
  | _, _ => []

def documentsAmong : List Node → List Document
  | [] => []
  | .document element :: rest => element :: (documentsIn element ++ documentsAmong rest)
  | _ :: rest => documentsAmong rest

end

def subdocuments (d : Document) : List Document := d :: documentsIn d

theorem ofKey_eq_nor_iff {key : String} : Keyword.ofKey key = .list .nor ↔ key = "$nor" := by
  constructor
  · intro h
    unfold Keyword.ofKey at h
    split_ifs at h with hnot hnor
    · exact hnor
    · cases h
    · cases h
  · rintro rfl
    decide

def spelledKey (key : String) : String := if key = "$nor" then "$not" else key

theorem fst_spellOutEntry (key : String) (node : Node) :
    (spellOutEntry key (Keyword.ofKey key) node).1 = spelledKey key := by
  by_cases hnor : key = "$nor"
  · rw [ofKey_eq_nor_iff.2 hnor, spelledKey, if_pos hnor]
    cases node <;> simp [spellOutEntry]
  · have hkeyword : Keyword.ofKey key ≠ .list .nor := mt ofKey_eq_nor_iff.1 hnor
    rw [spelledKey, if_neg hnor]
    unfold spellOutEntry
    split <;> simp_all

theorem keys_spellOut (d : Document) :
    Entries.keys (spellOut d) = (Entries.keys d).map spelledKey := by
  induction d with
  | nil => rfl
  | cons e d ih =>
      obtain ⟨key, node⟩ := e
      rw [spellOut, Entries.keys_cons, Entries.keys_cons, List.map_cons, ih, fst_spellOutEntry]

/-- Documents that are others spelled out, or new ones that hold an `$or` for a `$not`. -/
def Respelled (old new : List Document) : Prop :=
  ∀ x ∈ new, (∃ y ∈ old, x = spellOut y) ∨ ∃ node, x = [("$or", node)]

namespace Respelled

variable {old new old' new' : List Document}

theorem nil : Respelled old [] := by simp [Respelled]

theorem cons (h : Respelled old new) (d : Document) : Respelled (d :: old) (spellOut d :: new) := by
  intro x hx
  rcases List.mem_cons.1 hx with rfl | hx
  · exact .inl ⟨d, .head _, rfl⟩
  · exact (h x hx).imp_left fun ⟨y, hy, hxy⟩ => ⟨y, .tail _ hy, hxy⟩

theorem wrapped (h : Respelled old new) (node : Node) : Respelled old ([("$or", node)] :: new) := by
  intro x hx
  rcases List.mem_cons.1 hx with rfl | hx
  · exact .inr ⟨node, rfl⟩
  · exact h x hx

theorem append (h : Respelled old new) (h' : Respelled old' new') :
    Respelled (old ++ old') (new ++ new') := by
  intro x hx
  rcases List.mem_append.1 hx with hx | hx
  · exact (h x hx).imp_left fun ⟨y, hy, hxy⟩ => ⟨y, List.mem_append_left _ hy, hxy⟩
  · exact (h' x hx).imp_left fun ⟨y, hy, hxy⟩ => ⟨y, List.mem_append_right _ hy, hxy⟩

end Respelled

theorem documentsUnder_list (key : ListKeyword) (items : List Node) :
    documentsUnder (.list key) (.list items) = documentsAmong items := by
  rw [documentsUnder]

theorem documentsUnder_of_not_list (key : ListKeyword) {node : Node}
    (h : ∀ items, node ≠ .list items) : documentsUnder (.list key) node = [] := by
  rw [documentsUnder]
  · simp
  · exact fun _ items _ => h items

theorem documentsUnder_not_or (node : Node) :
    documentsUnder .not (.document [("$or", node)]) =
      [("$or", node)] :: documentsUnder (.list .or) node := by
  rw [documentsUnder, documentsIn, documentsIn, ofKey_or, List.append_nil]

theorem respelled_documentsIn (d : Document) :
    Respelled (documentsIn d) (documentsIn (spellOut d)) := by
  have hall := spellOut.mutual_induct
    (fun d => Respelled (documentsIn d) (documentsIn (spellOut d)))
    (fun key keyword node => Keyword.ofKey key = keyword →
      Respelled (documentsUnder keyword node)
        (documentsUnder (Keyword.ofKey (spellOutEntry key keyword node).1)
          (spellOutEntry key keyword node).2))
    (fun items => Respelled (documentsAmong items) (documentsAmong (spellOutElements items)))
  refine (hall ?not ?nor ?norOther ?list ?other ?nil ?cons ?none ?element ?elementOther).1 d
  case not =>
    intro key inner ih hkey
    rw [spellOutEntry, hkey, documentsUnder, documentsUnder]
    exact ih.cons inner
  case nor =>
    intro key items ih hkey
    rw [spellOutEntry, ofKey_not, documentsUnder_not_or, documentsUnder_list, documentsUnder_list]
    exact ih.wrapped _
  case norOther =>
    intro key node hnode hkey
    rw [spellOutEntry, ofKey_not, documentsUnder_not_or, documentsUnder_of_not_list .nor hnode,
      documentsUnder_of_not_list .or hnode]
    · exact Respelled.nil.wrapped node
    · exact hnode
  case list =>
    intro key keyword items hne ih hkey
    rw [spellOutEntry, hkey, documentsUnder_list, documentsUnder_list]
    · exact ih
    · exact hne
  case other =>
    intro key keyword node hinner hnoritems hnor hitems hkey
    have hentry : spellOutEntry key keyword node = (key, node) := by
      rw [spellOutEntry] <;> assumption
    rw [hentry, hkey, documentsUnder]
    · exact .nil
    · exact hinner
    · exact hitems
  case nil =>
    rw [spellOut, documentsIn]
    exact .nil
  case cons =>
    intro key node rest hnode hrest
    rw [spellOut, documentsIn, documentsIn]
    exact (hnode rfl).append hrest
  case none =>
    rw [spellOutElements, documentsAmong]
    exact .nil
  case element =>
    intro element rest helement hrest
    rw [spellOutElements, documentsAmong, documentsAmong]
    exact (helement.append hrest).cons element
  case elementOther =>
    intro n rest hn hrest
    rw [spellOutElements, documentsAmong, documentsAmong]
    · exact hrest
    all_goals exact hn

theorem keys_of_mem_subdocuments_spellOut {d x : Document} (h : x ∈ subdocuments (spellOut d)) :
    (∃ y ∈ subdocuments d, Entries.keys x = (Entries.keys y).map spelledKey) ∨
      Entries.keys x = ["$or"] := by
  have hall : Respelled (subdocuments d) (subdocuments (spellOut d)) :=
    (respelled_documentsIn d).cons d
  rcases hall x h with ⟨y, hy, rfl⟩ | ⟨node, rfl⟩
  · exact .inl ⟨y, hy, keys_spellOut y⟩
  · exact .inr rfl

theorem spelledKey_ne_nor (key : String) : spelledKey key ≠ "$nor" := by
  unfold spelledKey
  split_ifs with hnor
  · decide
  · exact hnor

theorem nodup_map_spelledKey {keys : List String} (hkeys : keys.Nodup)
    (hone : ¬ ("$nor" ∈ keys ∧ "$not" ∈ keys)) : (keys.map spelledKey).Nodup := by
  refine hkeys.map_on fun a ha b hb hab => ?_
  unfold spelledKey at hab
  split_ifs at hab with hanor hbnor hbnor
  · rw [hanor, hbnor]
  · exact absurd ⟨hanor ▸ ha, hab ▸ hb⟩ hone
  · exact absurd ⟨hbnor ▸ hb, hab ▸ ha⟩ hone
  · exact hab

/-- If no document at a logical position has both `$nor` and `$not`, spelling out every `$nor` keeps
keys distinct and leaves no `$nor`. The query and the functions that it needs stay the same, and a
refusal is the same with `$nor` read as `$or`. -/
theorem nor_is_not_over_or (c : Compiler) {d : Document}
    (hone : ∀ x ∈ subdocuments d, ¬ ("$nor" ∈ Entries.keys x ∧ "$not" ∈ Entries.keys x)) :
    ((∀ x ∈ subdocuments d, (Entries.keys x).Nodup) →
      ∀ x ∈ subdocuments (spellOut d), (Entries.keys x).Nodup) ∧
    (∀ x ∈ subdocuments (spellOut d), "$nor" ∉ Entries.keys x) ∧
    c.compile (.document (spellOut d)) =
      (c.compile (.document d)).mapError CompileError.spelledOut := by
  refine ⟨fun hkeys x hx => ?_, fun x hx => ?_, ?_⟩
  · rcases keys_of_mem_subdocuments_spellOut hx with ⟨y, hy, hxy⟩ | hxor
    · exact hxy ▸ nodup_map_spelledKey (hkeys y hy) (hone y hy)
    · exact hxor ▸ List.nodup_singleton _
  · rcases keys_of_mem_subdocuments_spellOut hx with ⟨y, hy, hxy⟩ | hxor
    · rw [hxy]
      intro hnor
      obtain ⟨key, -, hkey⟩ := List.mem_map.1 hnor
      exact spelledKey_ne_nor key hkey
    · rw [hxor]
      decide
  · rw [Compiler.compile, Compiler.compile, Compiler.document, Compiler.document,
      c.entryParts_spellOut, mapError_bind, mapError_bind]
    rfl

/-- A `$nor` within a `$nor`, with an element that is no document. The last one is an operand. -/
def nestedNor : Document :=
  [("$nor", .list [.document [("$and", .list [.document [("b", .value .null)]]),
      ("$nor", .list [.document [("a", .value .null)], .value .null])]]),
    ("c", .document [("$nor", .value .null)])]

theorem nestedNor_is_not_over_or :
    (∀ x ∈ subdocuments nestedNor, ¬ ("$nor" ∈ Entries.keys x ∧ "$not" ∈ Entries.keys x)) ∧
    (∀ x ∈ subdocuments nestedNor, (Entries.keys x).Nodup) ∧
    (default : Compiler).compile (.document nestedNor) =
      .error (.malformed (.element .nor .value)) ∧
    (default : Compiler).compile (.document
      [("$not", .document [("$or", .list [.document
          [("$and", .list [.document [("b", .value .null)]]),
            ("$not", .document [("$or",
              .list [.document [("a", .value .null)], .value .null])])]])]),
        ("c", .document [("$nor", .value .null)])]) =
      .error (.malformed (.element .or .value)) := by
  have hone : ∀ x ∈ subdocuments nestedNor,
      ¬ ("$nor" ∈ Entries.keys x ∧ "$not" ∈ Entries.keys x) := by decide
  have hnor : (default : Compiler).compile (.document nestedNor) =
    .error (.malformed (.element .nor .value)) := rfl
  refine ⟨hone, by decide, hnor, ?_⟩
  have hspelled := (nor_is_not_over_or default hone).2.2
  rw [hnor] at hspelled
  exact hspelled

end DocQuery.Query
