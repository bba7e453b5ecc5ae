import DocQuery.Proofs.Query.Leaves
import DocQuery.Proofs.Query.Reading
import DocQuery.Proofs.Query.Template
import Mathlib.Data.List.Forall2

/-! # What a filter means

The meaning of a document is given key by key, for each assignment of truth values to the leaves. A
part may place no constraint, and then has no value. The predicate of a document is read as a
formula with this meaning: parentheses stand wherever they are needed.
-/

namespace DocQuery.Query

/-- The conjunction of the parts that place a constraint, if any does. -/
def conjoin (ms : List (Option Bool)) : Option Bool :=
  if ms.all (· = none) then none else some (ms.all (· ≠ some false))

/-- The disjunction of alternatives, if all place a constraint. -/
def disjoin (ms : List (Option Bool)) : Option Bool :=
  if ms.any (· = none) then none else some (ms.any (· = some true))

namespace Compiler

section

variable (c : Compiler) (v : Leaf → Bool)

def fieldMeaning (name : String) : Node → Option Bool
  | .value x => some (v (c.equalityLeaf name x))
  | .document operators => some (operators.all fun entry =>
    (Operator.ofId? entry.1).any fun o => v (c.operatorLeaf name o entry.2))
  | .list _ => none

def listMeaning (key : ListKeyword) (ms : List (Option Bool)) : Option Bool :=
  match key with
  | .and => conjoin ms
  | .or => disjoin ms
  | .nor => (disjoin ms).map not

def emptyMeaning (key : ListKeyword) : Option Bool :=
  match c.options.emptyList with
  | .literal => some (key ≠ .or)
  | _ => none

mutual

def meanings : List (String × Node) → List (Option Bool)
  | [] => []
  | (key, node) :: rest => entryMeaning (Keyword.ofKey key) node :: meanings rest

def entryMeaning (keyword : Keyword) (node : Node) : Option Bool :=
  match keyword, node with
  | .not, .document inner => (conjoin (meanings inner)).map not
  | .list key, .list [] => c.emptyMeaning key
  | .list key, .list items => listMeaning key (elementMeanings items)
  | .field name, node => c.fieldMeaning v name node
  | _, _ => none

def elementMeanings : List Node → List (Option Bool)
  | [] => []
  | .document element :: rest => conjoin (meanings element) :: elementMeanings rest
  | _ :: rest => none :: elementMeanings rest

end

/-- The meaning of a document: the conjunction of its keys, or none if it places no constraint. -/
def meaning (d : Document) : Option Bool := conjoin (c.meanings v d)

end

end Compiler

/-! ## Connectives -/

def values (ms : List (Option Bool)) : List Bool := ms.filterMap id

@[simp] theorem values_nil : values [] = [] := rfl

@[simp] theorem values_none (ms : List (Option Bool)) : values (none :: ms) = values ms := rfl

@[simp] theorem values_some (b : Bool) (ms : List (Option Bool)) :
    values (some b :: ms) = b :: values ms := rfl

theorem conjoin_eq (ms : List (Option Bool)) :
    conjoin ms = if values ms = [] then none else some ((values ms).all id) := by
  have hvalue : ms.all (· ≠ some false) = (values ms).all id := by
    induction ms with
    | nil => rfl
    | cons m ms ih => rcases m with _ | _ | _ <;> simp_all
  have hnone : ms.all (· = none) = true ↔ values ms = [] := by
    simp [values, List.filterMap_eq_nil_iff]
  rw [conjoin, hvalue]
  by_cases h : values ms = []
  · rw [if_pos (hnone.2 h), if_pos h]
  · rw [if_neg (mt hnone.1 h), if_neg h]

theorem disjoin_eq {ms : List (Option Bool)} (h : none ∉ ms) :
    disjoin ms = some ((values ms).any id) := by
  have hvalue : ms.any (· = some true) = (values ms).any id := by
    induction ms with
    | nil => rfl
    | cons m ms ih => rcases m with _ | _ | _ <;> simp_all
  have hnone : ¬ ms.any (· = none) = true := by simpa using h
  rw [disjoin, if_neg hnone, hvalue]

theorem disjoin_eq_none {ms : List (Option Bool)} (h : none ∈ ms) : disjoin ms = none := by
  rw [disjoin, if_pos]
  simpa using h

namespace Connective

def level : Connective → Level
  | .and => .conjunction
  | .or => .disjunction

def formula : Connective → Formula → Formula → Formula
  | .and => .and
  | .or => .or

def fold : Connective → List Bool → Bool
  | .and, bs => bs.all id
  | .or, bs => bs.any id

variable {p q : Predicate} {φ ψ : Formula} {parts : List Predicate} {φs : List Formula}

theorem reads_more (key : Connective) (hp : Reads key.level p φ) (hq : Reads .factor q ψ) :
    Reads key.level (p ++ key.token :: q) (key.formula φ ψ) := by
  cases key with
  | and => exact .and hp hq
  | or => exact .or hp (.factor hq)

theorem reads_disjunction (key : Connective) (h : Reads key.level p φ) :
    Reads .disjunction p φ := by
  cases key with
  | and => exact .conjunction h
  | or => exact h

theorem fold_formula (key : Connective) (v : Leaf → Bool) (bs : List Bool) :
    key.fold ((key.formula φ ψ).eval v :: bs) = key.fold (φ.eval v :: ψ.eval v :: bs) := by
  cases key with
  | and => simp [fold, formula, Formula.eval, Bool.and_assoc]
  | or => simp [fold, formula, Formula.eval, Bool.or_assoc]

theorem reads_join_cons (key : Connective) (hp : Reads key.level p φ)
    (h : List.Forall₂ (Reads .factor) parts φs) :
    ∃ ψ, Reads key.level (Predicate.join key.token (p :: parts)) ψ ∧
      ∀ v, ψ.eval v = key.fold (φ.eval v :: φs.map (Formula.eval v)) := by
  induction h generalizing p φ with
  | nil =>
      refine ⟨φ, by simpa [Predicate.join, List.intercalate] using hp, fun v => ?_⟩
      cases key <;> simp [fold]
  | @cons q χ parts φs hq _ ih =>
      have hjoin : Predicate.join key.token (p :: q :: parts) =
          Predicate.join key.token ((p ++ key.token :: q) :: parts) := by
        cases parts <;> simp [Predicate.join, List.intercalate]
      rw [hjoin]
      obtain ⟨ψ, hψ, hv⟩ := ih (key.reads_more hp hq)
      refine ⟨ψ, hψ, fun v => ?_⟩
      rw [hv v, key.fold_formula, List.map_cons]

theorem reads_join (key : Connective) (h : List.Forall₂ (Reads .factor) parts φs)
    (hne : parts ≠ []) :
    ∃ ψ, Reads key.level (Predicate.join key.token parts) ψ ∧
      ∀ v, ψ.eval v = key.fold (φs.map (Formula.eval v)) := by
  cases h with
  | nil => exact absurd rfl hne
  | cons hp hps => exact key.reads_join_cons (hp.lift _) hps

end Connective

/-! ## Fragments -/

/-- How loosely the parts of a fragment may be bound, by whether something else groups it. -/
def Level.within : (grouped : Bool) → Level
  | true => .disjunction
  | false => .factor

/-- A predicate says what is meant: nothing if nothing is, or it is read as a formula with the value
that is meant. -/
def Says (level : Level) (p : Predicate) (m : (Leaf → Bool) → Option Bool) : Prop :=
  (p = [] ∧ ∀ v, m v = none) ∨ ∃ φ, Reads level p φ ∧ ∀ v, m v = some (φ.eval v)

def SayEach (level : Level) (parts : List Predicate) (ms : (Leaf → Bool) → List (Option Bool)) :
    Prop :=
  ∃ φs, List.Forall₂ (Reads level) parts φs ∧
    ∀ v, values (ms v) = φs.map (Formula.eval v)

variable {level : Level} {p : Predicate} {parts : List Predicate} {φs : List Formula}
  {m : (Leaf → Bool) → Option Bool} {ms : (Leaf → Bool) → List (Option Bool)}

theorem Reads.negate {φ : Formula} (h : Reads .disjunction p φ) (level : Level) :
    Reads level p.negate (.not φ) := by
  rw [Predicate.negate, if_neg h.ne_nil]
  exact (Reads.not h).lift level

theorem Says.negate (h : Says .disjunction p m) (level : Level) :
    Says level p.negate fun v => (m v).map not := by
  rcases h with ⟨rfl, hm⟩ | ⟨φ, hφ, hm⟩
  · exact Or.inl ⟨rfl, fun v => by simp [hm v]⟩
  · exact Or.inr ⟨_, hφ.negate level, fun v => by simp [hm v, Formula.eval]⟩

theorem SayEach.nil (level : Level) : SayEach level [] fun _ => [] := ⟨[], .nil, fun _ => rfl⟩

theorem SayEach.cons (hp : Says level p m) (h : SayEach level parts ms) :
    SayEach level (if p = [] then parts else p :: parts) fun v => m v :: ms v := by
  obtain ⟨φs, hφs, hms⟩ := h
  rcases hp with ⟨rfl, hm⟩ | ⟨φ, hφ, hm⟩
  · exact ⟨φs, hφs, fun v => by simp [hm v, hms v]⟩
  · rw [if_neg hφ.ne_nil]
    exact ⟨φ :: φs, .cons hφ hφs, fun v => by simp [hm v, hms v]⟩

theorem reads_joined (key : ListKeyword) (grouped : Bool)
    (h : List.Forall₂ (Reads .factor) parts φs) (hne : parts ≠ []) :
    ∃ ψ, Reads (.within grouped) (Compiler.joined key grouped parts) ψ ∧
      ∀ v, ψ.eval v = key.connective.fold (φs.map (Formula.eval v)) := by
  match parts, φs, h with
  | [], _, _ => exact absurd rfl hne
  | [p], [φ], .cons hp .nil =>
      refine ⟨φ, ?_, fun v => by cases key <;> simp [Connective.fold, ListKeyword.connective]⟩
      simpa [Compiler.joined, Predicate.join, List.intercalate] using hp.lift (.within grouped)
  | p :: q :: parts, _, h =>
      obtain ⟨ψ, hψ, hv⟩ := key.connective.reads_join h hne
      have hd := key.connective.reads_disjunction hψ
      refine ⟨ψ, ?_, hv⟩
      cases grouped with
      | true => simpa [Compiler.joined, Level.within] using hd
      | false => simpa [Compiler.joined, Level.within, Predicate.paren] using Reads.paren hd

theorem group_eq_joined (parts : List Predicate) :
    Predicate.group .and parts = Compiler.joined .and false parts := by
  match parts with
  | [] => rfl
  | [p] => simp [Predicate.group, Compiler.joined, Predicate.join, List.intercalate]
  | p :: q :: parts =>
      simp [Predicate.group, Compiler.joined, ListKeyword.connective, Connective.token]

/-- Without parts there is no constraint. -/
theorem SayEach.conjoin_eq_none (h : SayEach level parts ms) (v : Leaf → Bool) :
    conjoin (ms v) = none ↔ parts = [] := by
  obtain ⟨φs, hφs, hms⟩ := h
  have hnil : φs = [] ↔ parts = [] := by
    rw [← List.length_eq_zero_iff, ← List.length_eq_zero_iff, hφs.length_eq]
  rw [conjoin_eq, hms v, ← hnil]
  simp

theorem SayEach.conjoined {q : Predicate} (h : SayEach level parts ms) {level' : Level}
    (hnone : parts = [] → q = [])
    (hsome : ∀ φs, List.Forall₂ (Reads level) parts φs → parts ≠ [] →
      ∃ ψ, Reads level' q ψ ∧ ∀ v, ψ.eval v = Connective.and.fold (φs.map (Formula.eval v))) :
    Says level' q fun v => conjoin (ms v) := by
  by_cases hne : parts = []
  · exact Or.inl ⟨hnone hne, fun v => (h.conjoin_eq_none v).2 hne⟩
  · have hconstraint := fun v => mt (h.conjoin_eq_none v).1 hne
    obtain ⟨φs, hφs, hms⟩ := h
    obtain ⟨ψ, hψ, hv⟩ := hsome φs hφs hne
    refine Or.inr ⟨ψ, hψ, fun v => ?_⟩
    have hvalue := hconstraint v
    simp only [conjoin_eq, hms v] at hvalue ⊢
    rw [if_neg fun he => hvalue (if_pos he), hv v]
    rfl

theorem SayEach.join (h : SayEach .factor parts ms) :
    Says .conjunction (Predicate.join .and parts) fun v => conjoin (ms v) :=
  h.conjoined (fun hp => hp ▸ rfl) fun _ => Connective.and.reads_join

/-- A conjunction in parentheses can stand in a list. -/
theorem SayEach.group (h : SayEach .factor parts ms) :
    Says .factor (Predicate.group .and parts) fun v => conjoin (ms v) :=
  h.conjoined (fun hp => hp ▸ rfl) fun _ hφs hne =>
    group_eq_joined parts ▸ reads_joined .and false hφs hne

theorem SayEach.group_eq_nil (h : SayEach .factor parts ms) :
    Predicate.group .and parts = [] ↔ parts = [] := by
  refine ⟨fun hg => ?_, fun hp => hp ▸ rfl⟩
  rcases h.group with ⟨-, hm⟩ | ⟨φ, hφ, -⟩
  · exact (h.conjoin_eq_none fun _ => true).1 (hm _)
  · exact absurd hg hφ.ne_nil

/-- A part that stands alone may be bound loosely. -/
theorem SayEach.alone (h : SayEach .disjunction parts ms) (hlen : parts.length ≤ 1) :
    Says .disjunction (Predicate.join .and parts) fun v => conjoin (ms v) := by
  refine h.conjoined (fun hp => hp ▸ rfl) fun φs hφs hne => ?_
  match parts, φs, hφs with
  | [], _, _ => exact absurd rfl hne
  | [p], [φ], .cons hp .nil =>
      exact ⟨φ, by simpa [Predicate.join, List.intercalate] using hp,
        fun v => by simp [Connective.fold]⟩
  | _ :: _ :: _, _, _ => simp at hlen

theorem Says.loosen (h : Says .conjunction p m) : Says .disjunction p m :=
  h.imp_right fun ⟨φ, hφ, hm⟩ => ⟨φ, .conjunction hφ, hm⟩

/-- What is known of the elements of a list says what they mean: an alternative places no
constraint, or the parts say what is meant, and then none of several alternatives is missing. -/
def SayElements (key : ListKeyword) (parts : Option (List Predicate))
    (ms : (Leaf → Bool) → List (Option Bool)) : Prop :=
  match parts with
  | none => key.connective = .or ∧ ∀ v, none ∈ ms v
  | some parts => SayEach .factor parts ms ∧ (key.connective = .or → ∀ v, none ∉ ms v)

theorem SayEach.disjoined (h : SayEach .factor parts ms) (key : ListKeyword)
    (hkey : key.connective = .or) (grouped : Bool) (hnone : ∀ v, none ∉ ms v)
    (hne : ∀ v, ms v ≠ []) :
    Says (.within grouped) (Compiler.joined key grouped parts) fun v => disjoin (ms v) := by
  obtain ⟨φs, hφs, hms⟩ := h
  have hparts : parts ≠ [] := by
    rintro rfl
    cases hφs
    obtain ⟨m, hm⟩ := List.exists_mem_of_ne_nil _ (hne fun _ => true)
    cases m with
    | none => exact hnone _ hm
    | some b =>
        have hb : b ∈ values (ms fun _ => true) := List.mem_filterMap.2 ⟨some b, hm, rfl⟩
        rw [hms] at hb
        cases hb
  obtain ⟨ψ, hψ, hv⟩ := reads_joined key grouped hφs hparts
  refine Or.inr ⟨ψ, hψ, fun v => (disjoin_eq (hnone v)).trans ?_⟩
  rw [hms v, hv v, hkey]
  rfl

theorem SayElements.list {key : ListKeyword} {parts : Option (List Predicate)}
    (h : SayElements key parts ms) (hne : ∀ v, ms v ≠ []) (grouped : Bool) :
    Says (.within grouped) (parts.elim [] (Compiler.listPredicate key grouped))
      fun v => Compiler.listMeaning key (ms v) := by
  cases parts with
  | none =>
      obtain ⟨hkey, hnone⟩ := h
      refine Or.inl ⟨rfl, fun v => ?_⟩
      cases key with
      | and => cases hkey
      | or => exact disjoin_eq_none (hnone v)
      | nor => simp [Compiler.listMeaning, disjoin_eq_none (hnone v)]
  | some parts =>
      obtain ⟨hparts, hall⟩ := h
      cases key with
      | and => exact hparts.conjoined (fun hp => hp ▸ rfl) fun _ => reads_joined .and grouped
      | or => exact hparts.disjoined .or rfl grouped (hall rfl) hne
      | nor => exact (hparts.disjoined .nor rfl true (hall rfl) hne).negate _

namespace Compiler

variable {c : Compiler}

theorem reads_operatorParts (c : Compiler) (name : String) {operators : List (String × Node)}
    {ps : Parts} (h : c.operatorParts name operators = .ok ps) :
    ∃ φs, List.Forall₂ (Reads .factor) ps.parts φs ∧ (ps.parts = [] ↔ operators = []) ∧
      ∀ v, φs.map (Formula.eval v) = operators.map fun entry =>
        (Operator.ofId? entry.1).any fun o => v (c.operatorLeaf name o entry.2) := by
  induction operators generalizing ps with
  | nil =>
      obtain rfl := Except.ok.inj h
      exact ⟨[], .nil, by simp [Parts.none], fun _ => rfl⟩
  | cons entry rest ih =>
      obtain ⟨id, argument⟩ := entry
      rw [operatorParts] at h
      cases ho : Operator.ofId? id with
      | none =>
          rw [ho] at h
          cases h
      | some o =>
          rw [ho] at h
          obtain ⟨ps', hps', h⟩ := bind_eq_ok.1 h
          obtain rfl := Except.ok.inj h
          obtain ⟨φs, hφs, -, hv⟩ := ih hps'
          refine ⟨.atom (c.operatorLeaf name o argument) :: φs, ?_, by simp [Parts.add],
            fun v => ?_⟩
          · simpa [Parts.add] using ⟨Reads.leaf _, hφs⟩
          · simp [ho, hv v, Formula.eval]

theorem says_field {name : String} {node : Node} {f : Fragment} (h : c.field name node = .ok f)
    (grouped : Bool) :
    Says (.within grouped) f.predicate fun v => c.fieldMeaning v name node := by
  match node with
  | .value x =>
      obtain rfl := Except.ok.inj h
      exact Or.inr ⟨.atom (c.equalityLeaf name x), (Reads.leaf _).lift _, fun _ => rfl⟩
  | .document [] => cases h
  | .document (operator :: operators) =>
      obtain ⟨ps, hps, h⟩ := bind_eq_ok.1 h
      obtain rfl := Except.ok.inj h
      obtain ⟨φs, hφs, hempty, hv⟩ := c.reads_operatorParts name hps
      have hne : ps.parts ≠ [] := fun he => by simpa using hempty.1 he
      obtain ⟨ψ, hψ, heval⟩ := reads_joined .and false hφs hne
      rw [← group_eq_joined] at hψ
      refine Or.inr ⟨ψ, hψ.lift _, fun v => ?_⟩
      rw [heval v, hv v]
      simp [fieldMeaning, Connective.fold, ListKeyword.connective, List.all_map]
  | .list items => cases h

theorem says_empty {key : ListKeyword} {p : Predicate} (h : c.emptyList key = .ok p)
    (level : Level) :
    Says level (if key = .nor then p.negate else p) fun _ => c.emptyMeaning key := by
  rw [emptyList] at h
  simp only [emptyMeaning]
  cases hpolicy : c.options.emptyList with
  | skip =>
      rw [hpolicy] at h
      obtain rfl := Except.ok.inj h
      exact Or.inl ⟨by cases key <;> rfl, fun _ => rfl⟩
  | literal =>
      rw [hpolicy] at h
      obtain rfl := Except.ok.inj h
      have htruth : ∀ b, Reads level [.truth b] (.truth b) := fun b => (Reads.truth b).lift level
      cases key with
      | and => exact Or.inr ⟨_, htruth true, fun _ => rfl⟩
      | or => exact Or.inr ⟨_, htruth false, fun _ => rfl⟩
      | nor =>
          exact Or.inr ⟨_, ((Reads.truth false).lift _).negate level, fun _ => rfl⟩
  | reject =>
      rw [hpolicy] at h
      cases h

theorem elementMeanings_document (v : Leaf → Bool) (element : List (String × Node))
    (rest : List Node) : c.elementMeanings v (.document element :: rest) =
      conjoin (c.meanings v element) :: c.elementMeanings v rest := by
  rw [elementMeanings]

theorem elementMeanings_ne_nil (v : Leaf → Bool) {items : List Node} (h : items ≠ []) :
    c.elementMeanings v items ≠ [] := by
  match items with
  | [] => exact absurd rfl h
  | .value _ :: _ => simp [elementMeanings]
  | .document _ :: _ => simp [elementMeanings]
  | .list _ :: _ => simp [elementMeanings]

/-- All fragments of a compilation say what is meant. Only a fragment that stands alone in the
parentheses of a `NOT` may be bound loosely. -/
theorem says_inductive (c : Compiler) : c.Inductive
    (fun grouped es ps => ps.parts.length ≤ es.length ∧
      SayEach (.within grouped) ps.parts fun v => c.meanings v es)
    (fun grouped keyword node f =>
      Says (.within grouped) f.predicate fun v => c.entryMeaning v keyword node)
    (fun key items es => SayElements key es.parts fun v => c.elementMeanings v items) where
  nil := fun _ => ⟨Nat.le_refl _, by simpa [meanings, Parts.none] using SayEach.nil _⟩
  cons := by
    intro grouped key node rest f ps hf hps
    refine ⟨?_, by simpa [meanings, Parts.add] using hps.2.cons hf⟩
    have hlen := hps.1
    simp only [Parts.add]
    split <;> simp only [List.length_cons] <;> omega
  not := by
    rintro grouped inner ps ⟨hlen, h⟩
    have hbody : Says .disjunction ps.conjunction.predicate
        fun v => conjoin (c.meanings v inner) := by
      by_cases hone : inner.length = 1
      · rw [decide_eq_true hone] at h
        exact h.alone (hone ▸ hlen)
      · rw [decide_eq_false hone] at h
        exact h.join.loosen
    simpa only [entryMeaning] using hbody.negate _
  empty := by
    intro grouped key p hp
    simpa only [entryMeaning] using says_empty hp _
  list := by
    intro grouped key items es hne h
    have hmeaning : ∀ v, c.entryMeaning v (.list key) (.list items) =
        listMeaning key (c.elementMeanings v items) := fun v => by
      rw [entryMeaning]
      exact hne
    simp only [hmeaning]
    exact h.list (fun v => elementMeanings_ne_nil v hne) grouped
  field := by
    intro grouped name node f hf
    have hmeaning : ∀ v, c.entryMeaning v (.field name) node = c.fieldMeaning v name node :=
      fun v => by rw [entryMeaning]
    simp only [hmeaning]
    exact says_field hf grouped
  none := fun _ => ⟨by simpa [elementMeanings] using SayEach.nil _, by simp [elementMeanings]⟩
  void := by
    intro key element rest ps hps hempty hkey
    simp only [elementMeanings_document]
    exact ⟨hkey, fun v => List.mem_cons.2 (Or.inl ((hps.2.conjoin_eq_none v).2 hempty).symm)⟩
  more := by
    intro key element rest ps es hps hvoid hes
    simp only [elementMeanings_document]
    cases hparts : es.parts with
    | none =>
        rw [hparts] at hes
        simp only [Elements.add, hparts, Option.map_none]
        exact ⟨hes.1, fun v => List.mem_cons_of_mem _ (hes.2 v)⟩
    | some parts =>
        rw [hparts] at hes
        simp only [Elements.add, hparts, Option.map_some]
        refine ⟨?_, fun hkey v hm => ?_⟩
        · simpa only [hps.2.group_eq_nil] using hes.1.cons hps.2.group
        · rcases List.mem_cons.1 hm with hm | hm
          · exact hvoid ⟨(hps.2.conjoin_eq_none v).1 hm.symm, hkey⟩
          · exact hes.2 hkey v hm

theorem says_document {d : Document} {f : Fragment} (h : c.document d = .ok f) :
    Says .disjunction f.predicate fun v => c.meaning v d := by
  obtain ⟨ps, rfl, -, hps⟩ := c.says_inductive.document h
  exact hps.join.loosen

/-! ## Texts -/

theorem Writes.text_ne_empty {l : Leaf} (h : c.Writes l) : l.text ≠ "" := by
  rcases h with ⟨name, v, rfl⟩ | ⟨name, o, argument, rfl⟩
  · simp [equalityLeaf_text]
  · cases o with
    | compare comparison => simp [compareLeaf_text]
    | call function => simp [callLeaf_text]

theorem text_eq_empty {d : Document} {f : Fragment} (h : c.document d = .ok f) :
    f.predicate.text = "" ↔ f.predicate = [] := by
  refine ⟨fun htext => ?_, fun hp => hp ▸ rfl⟩
  cases hp : f.predicate with
  | nil => rfl
  | cons t rest =>
      rw [hp, Predicate.text, List.map_cons, String.join_cons, String.append_eq_empty_iff] at htext
      cases t with
      | leaf l =>
          have hl : l ∈ f.predicate.leaves := Predicate.mem_leaves.2 (by simp [hp])
          exact absurd htext.1 (writes_of_mem h hl).text_ne_empty
      | truth b => cases b <;> simp [Token.text] at htext
      | _ => simp [Token.text] at htext

end Compiler

end DocQuery.Query
