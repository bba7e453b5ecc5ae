import DocQuery.Filter.Basic
import DocQuery.Query.Dialect
import DocQuery.Query.Error
import DocQuery.Query.Operator
import DocQuery.Query.Predicate

/-!
# Compiling filters to queries

The keys of a document are visited in order and what they demand is joined by `AND`. A part that
places no constraint is dropped. The functions that operators call are collected in the order in
which the operators are met; they stay collected when an alternative without a constraint makes its
whole disjunction void, and what follows such an alternative in its list is not visited.
-/

namespace DocQuery.Query

/-- What an empty list of `$and`, `$or` or `$nor` means. -/
inductive EmptyListPolicy where
  /-- It places no constraint. -/
  | skip
  /-- It is the neutral element of its connective. -/
  | literal
  /-- It is refused. -/
  | reject
deriving DecidableEq, Repr

structure Options where
  emptyList : EmptyListPolicy
deriving DecidableEq, Repr

instance : Inhabited Options := ⟨⟨.skip⟩⟩

inductive Connective where
  | and
  | or
deriving DecidableEq, Repr

def Connective.token : Connective → Token
  | .and => .and
  | .or => .or

/-- The truth value of an empty list. -/
def Connective.neutral : Connective → Bool
  | .and => true
  | .or => false

def ListKeyword.connective : ListKeyword → Connective
  | .and => .and
  | .or => .or
  | .nor => .or

inductive Keyword where
  | not
  | list (key : ListKeyword)
  /-- A key with a dollar sign that is no keyword. -/
  | unknown (key : String)
  | field (name : String)
deriving DecidableEq, Repr

def Keyword.ofKey (key : String) : Keyword :=
  if key = "$not" then .not
  else if key = ListKeyword.text .nor then .list .nor
  else if key = ListKeyword.text .and then .list .and
  else if key = ListKeyword.text .or then .list .or
  else if key.toList.head? = some '$' then .unknown key
  else .field key

/-- A query text and the functions that it may call, in the order in which they were met and with
repetitions. -/
structure Compiled where
  text : String
  requirements : List Requirement
deriving DecidableEq, Repr

namespace Compiled

/-- Whether no function has to be provided before the query runs. -/
def isPlain (c : Compiled) : Bool := c.requirements.isEmpty

end Compiled

structure Fragment where
  predicate : Predicate
  requirements : List Requirement
deriving DecidableEq, Repr

/-- The constraints of the keys of a document or of the elements of a list, none of them empty. -/
structure Parts where
  parts : List Predicate
  requirements : List Requirement
deriving DecidableEq, Repr

namespace Parts

def none : Parts := ⟨[], []⟩

def add (f : Fragment) (ps : Parts) : Parts :=
  ⟨if f.predicate = [] then ps.parts else f.predicate :: ps.parts,
    f.requirements ++ ps.requirements⟩

def conjunction (ps : Parts) : Fragment := ⟨Predicate.join .and ps.parts, ps.requirements⟩

end Parts

structure Compiler where
  dialect : Dialect
  options : Options
deriving DecidableEq, Repr

namespace Compiler

instance : Inhabited Compiler := ⟨⟨.standard, default⟩⟩

def equalityLeaf (c : Compiler) (name : String) (v : Value) : Leaf :=
  ⟨equality.fill [c.dialect.fieldRef name, v.literal], none⟩

def operatorLeaf (c : Compiler) (field : String) (o : Operator) (argument : Node) : Leaf :=
  ⟨o.template.fill [c.dialect.fieldRef field, argument.literal],
    o.function?.map ServerFunction.name⟩

def operatorParts (c : Compiler) (field : String) :
    List (String × Node) → Except CompileError Parts
  | [] => .ok .none
  | (id, argument) :: rest =>
    match Operator.ofId? id with
    | none => .error (.invalidOperator id (some field))
    | some o => do
      let ps ← operatorParts c field rest
      let f : Fragment := ⟨[.leaf (c.operatorLeaf field o argument)],
        (o.function?.map ServerFunction.requirement).toList⟩
      return ps.add f

def field (c : Compiler) (name : String) : Node → Except CompileError Fragment
  | .value v => .ok ⟨[.leaf (c.equalityLeaf name v)], []⟩
  | .document [] => .error (.malformed (.noOperators name))
  | .document operators => do
    let ps ← c.operatorParts name operators
    return ⟨Predicate.group .and ps.parts, ps.requirements⟩
  | .list _ => .error (.malformed (.fieldList name))

/-- What an empty list demands, before a negation. -/
def emptyList (c : Compiler) (key : ListKeyword) : Except CompileError Predicate :=
  match c.options.emptyList with
  | .skip => .ok []
  | .literal => .ok [.truth key.connective.neutral]
  | .reject => .error (.emptyList key)

/-- The parts of a list joined by its connective, in parentheses unless something else groups them.
-/
def joined (key : ListKeyword) (grouped : Bool) (parts : List Predicate) : Predicate :=
  let all := Predicate.join key.connective.token parts
  if 1 < parts.length ∧ grouped = false then Predicate.paren all else all

/-- What a list keyword demands, given what its list does: `$nor` negates it, and the parentheses of
the negation group it. -/
def listPredicate (key : ListKeyword) (grouped : Bool) (parts : List Predicate) : Predicate :=
  match key with
  | .nor => Predicate.negate (joined .nor true parts)
  | key => joined key grouped parts

/-- What is known of the elements of a list: the constraints of those that place one, or that the
whole list places none, and the functions met. -/
structure Elements where
  parts : Option (List Predicate)
  requirements : List Requirement
deriving DecidableEq, Repr

def Elements.add (element : Parts) (rest : Elements) : Elements :=
  ⟨rest.parts.map fun ps =>
      if element.parts = [] then ps else Predicate.group .and element.parts :: ps,
    element.requirements ++ rest.requirements⟩

mutual

/-- What the entries of a document demand. `grouped` says that the document stands alone in the
parentheses of a `NOT`, so that a list in it needs none of its own. -/
def entryParts (c : Compiler) (grouped : Bool) : List (String × Node) → Except CompileError Parts
  | [] => .ok .none
  | (key, node) :: rest => do
    let f ← c.entry grouped (Keyword.ofKey key) node
    let ps ← c.entryParts grouped rest
    return ps.add f

def entry (c : Compiler) (grouped : Bool) (keyword : Keyword) (node : Node) :
    Except CompileError Fragment :=
  match keyword, node with
  | .not, .document inner => do
    let ps ← c.entryParts (inner.length = 1) inner
    return ⟨Predicate.negate ps.conjunction.predicate, ps.requirements⟩
  | .not, node => .error (.malformed (.notOfDocument node.kind))
  | .list key, .list [] => do
    let p ← c.emptyList key
    return ⟨if key = .nor then Predicate.negate p else p, []⟩
  | .list key, .list items => do
    let es ← c.elementParts key items
    return ⟨es.parts.elim [] (listPredicate key grouped), es.requirements⟩
  | .list key, node => .error (.malformed (.notList key node.kind))
  | .unknown key, _ => .error (.invalidOperator key none)
  | .field name, node => c.field name node

/-- What the elements of a list demand. Once an alternative places no constraint, the whole list
places none and the rest of it is not visited. -/
def elementParts (c : Compiler) (key : ListKeyword) : List Node → Except CompileError Elements
  | [] => .ok ⟨some [], []⟩
  | .document element :: rest => do
    let ps ← c.entryParts false element
    if ps.parts = [] ∧ key.connective = .or then return ⟨none, ps.requirements⟩
    else
      let es ← c.elementParts key rest
      return .add ps es
  | .value _ :: _ => .error (.malformed (.element key .value))
  | .list _ :: _ => .error (.malformed (.element key .list))

end

def document (c : Compiler) (d : Document) : Except CompileError Fragment := do
  let ps ← c.entryParts false d
  return ps.conjunction

def compile (c : Compiler) : Filter → Except CompileError Compiled
  | .raw predicate => .ok ⟨c.dialect.selectWhere predicate, []⟩
  | .document d => do
    let f ← c.document d
    return ⟨c.dialect.selectWhere f.predicate.text, f.requirements⟩

end Compiler
end DocQuery.Query
