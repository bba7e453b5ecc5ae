import DocQuery.Query.Predicate

/-! # Reading predicates

How a sequence of tokens is read as a formula. Parentheses group, `NOT(` opens a group that is
negated, `AND` binds tighter than `OR`, and both associate to the left. `Reads` is the grammar;
`Predicate.read` goes through the tokens once and finds the formula. They agree, so the grammar
reads no predicate in two ways.
-/

namespace DocQuery.Query

inductive Formula where
  | atom (l : Leaf)
  | truth (b : Bool)
  | not (φ : Formula)
  | and (φ ψ : Formula)
  | or (φ ψ : Formula)
deriving DecidableEq, Repr

def Formula.eval (v : Leaf → Bool) : Formula → Bool
  | .atom l => v l
  | .truth b => b
  | .not φ => !φ.eval v
  | .and φ ψ => φ.eval v && ψ.eval v
  | .or φ ψ => φ.eval v || ψ.eval v

/-- How loosely the parts of a predicate may be bound. -/
inductive Level where
  | factor
  | conjunction
  | disjunction
deriving DecidableEq, Repr

inductive Reads : Level → Predicate → Formula → Prop
  | leaf (l : Leaf) : Reads .factor [.leaf l] (.atom l)
  | truth (b : Bool) : Reads .factor [.truth b] (.truth b)
  | paren {p : Predicate} {φ : Formula} :
      Reads .disjunction p φ → Reads .factor (.lparen :: (p ++ [.rparen])) φ
  | not {p : Predicate} {φ : Formula} :
      Reads .disjunction p φ → Reads .factor (.notOpen :: (p ++ [.rparen])) (.not φ)
  | factor {p : Predicate} {φ : Formula} : Reads .factor p φ → Reads .conjunction p φ
  | and {p q : Predicate} {φ ψ : Formula} :
      Reads .conjunction p φ → Reads .factor q ψ → Reads .conjunction (p ++ .and :: q) (.and φ ψ)
  | conjunction {p : Predicate} {φ : Formula} : Reads .conjunction p φ → Reads .disjunction p φ
  | or {p q : Predicate} {φ ψ : Formula} :
      Reads .disjunction p φ → Reads .conjunction q ψ → Reads .disjunction (p ++ .or :: q) (.or φ ψ)

theorem Reads.ne_nil {level : Level} {p : Predicate} {φ : Formula} (h : Reads level p φ) :
    p ≠ [] := by
  induction h with
  | factor _ ih => exact ih
  | conjunction _ ih => exact ih
  | _ => simp

theorem Reads.lift {p : Predicate} {φ : Formula} (h : Reads .factor p φ) (level : Level) :
    Reads level p φ := by
  cases level with
  | factor => exact h
  | conjunction => exact .factor h
  | disjunction => exact .conjunction (.factor h)

/-! ## The reader -/

/-- What was read of a group before the operand that is due: the alternatives in front, and the
factors of the current one. -/
structure Before where
  alternatives : Option Formula
  factors : Option Formula
deriving DecidableEq, Repr

namespace Before

def start : Before := ⟨none, none⟩

def multiply (b : Before) (φ : Formula) : Formula := b.factors.elim φ (.and · φ)

def add (alternatives : Option Formula) (φ : Formula) : Formula := alternatives.elim φ (.or · φ)

end Before

/-- A state of the reader. The groups around the current one are kept, the innermost in front, each
with a sign that tells whether the current one is negated in it. -/
inductive Reader where
  /-- An operand is due. -/
  | due (before : Before) (outer : List (Bool × Before))
  /-- An operand was read, and with it an alternative up to here. -/
  | done (alternatives : Option Formula) (alternative : Formula) (outer : List (Bool × Before))
deriving DecidableEq, Repr

namespace Reader

def operand (φ : Formula) (b : Before) (outer : List (Bool × Before)) : Reader :=
  .done b.alternatives (b.multiply φ) outer

def step : Reader → Token → Option Reader
  | .due b outer, .leaf l => some (operand (.atom l) b outer)
  | .due b outer, .truth t => some (operand (.truth t) b outer)
  | .due b outer, .lparen => some (.due .start ((false, b) :: outer))
  | .due b outer, .notOpen => some (.due .start ((true, b) :: outer))
  | .done alternatives φ outer, .and => some (.due ⟨alternatives, some φ⟩ outer)
  | .done alternatives φ outer, .or => some (.due ⟨some (Before.add alternatives φ), none⟩ outer)
  | .done alternatives φ ((negated, b) :: outer), .rparen =>
    let ψ := Before.add alternatives φ
    some (operand (if negated then .not ψ else ψ) b outer)
  | _, _ => none

def steps (r : Reader) (p : Predicate) : Option Reader := p.foldlM step r

def result : Reader → Option Formula
  | .done alternatives φ [] => some (Before.add alternatives φ)
  | _ => none

@[simp] theorem steps_nil (r : Reader) : r.steps [] = some r := rfl

@[simp] theorem steps_cons (r : Reader) (t : Token) (p : Predicate) :
    r.steps (t :: p) = (r.step t).bind fun r => r.steps p := rfl

@[simp] theorem steps_append (r : Reader) (p q : Predicate) :
    r.steps (p ++ q) = (r.steps p).bind fun r => r.steps q := List.foldlM_append

end Reader

def Predicate.read (p : Predicate) : Option Formula :=
  ((Reader.due .start []).steps p).bind Reader.result

/-- What the reader makes of a part of a predicate, by how loosely it is bound. -/
def Leads : Level → Predicate → Formula → Prop
  | .factor, p, φ => ∀ b outer, (Reader.due b outer).steps p = some (.operand φ b outer)
  | .conjunction, p, φ => ∀ alternatives outer,
    (Reader.due ⟨alternatives, none⟩ outer).steps p = some (.done alternatives φ outer)
  | .disjunction, p, φ => ∀ outer, ∃ alternatives ψ, Before.add alternatives ψ = φ ∧
    (Reader.due .start outer).steps p = some (.done alternatives ψ outer)

theorem Reads.leads {level : Level} {p : Predicate} {φ : Formula} (h : Reads level p φ) :
    Leads level p φ := by
  induction h with
  | leaf l => exact fun _ _ => rfl
  | truth b => exact fun _ _ => rfl
  | paren _ ih =>
      intro b outer
      obtain ⟨alternatives, ψ, rfl, hs⟩ := ih ((false, b) :: outer)
      simp [Reader.step, hs]
  | not _ ih =>
      intro b outer
      obtain ⟨alternatives, ψ, rfl, hs⟩ := ih ((true, b) :: outer)
      simp [Reader.step, hs]
  | factor _ ih => exact fun alternatives outer => ih ⟨alternatives, none⟩ outer
  | @and p q φ ψ _ _ ihp ihq =>
      intro alternatives outer
      have hq := ihq ⟨alternatives, some φ⟩ outer
      simp [ihp alternatives outer, Reader.step, hq, Reader.operand, Before.multiply]
  | conjunction _ ih => exact fun outer => ⟨none, _, rfl, ih none outer⟩
  | @or p q φ χ _ _ ihp ihq =>
      intro outer
      obtain ⟨alternatives, ψ, rfl, hs⟩ := ihp outer
      refine ⟨some (Before.add alternatives ψ), χ, rfl, ?_⟩
      have hq := ihq (some (Before.add alternatives ψ)) outer
      simp [hs, Reader.step, hq]

/-- The reader finds the formula that the grammar gives. -/
theorem Reads.read {p : Predicate} {φ : Formula} (h : Reads .disjunction p φ) :
    p.read = some φ := by
  obtain ⟨alternatives, ψ, rfl, hs⟩ := h.leads []
  rw [Predicate.read, hs]
  rfl

/-! ## What the reader has read -/

def ReadsAlternatives : Option Formula → Predicate → Prop
  | none, p => p = []
  | some φ, p => ∃ q, p = q ++ [.or] ∧ Reads .disjunction q φ

def ReadsFactors : Option Formula → Predicate → Prop
  | none, p => p = []
  | some φ, p => ∃ q, p = q ++ [.and] ∧ Reads .conjunction q φ

def ReadsOuter : List (Bool × Before) → Predicate → Prop
  | [], p => p = []
  | (negated, b) :: outer, p => ∃ o a f, ReadsOuter outer o ∧ ReadsAlternatives b.alternatives a ∧
    ReadsFactors b.factors f ∧ p = o ++ a ++ f ++ [if negated then .notOpen else .lparen]

def Reader.Has : Reader → Predicate → Prop
  | .due b outer, p => ∃ o a f, ReadsOuter outer o ∧ ReadsAlternatives b.alternatives a ∧
    ReadsFactors b.factors f ∧ p = o ++ a ++ f
  | .done alternatives φ outer, p => ∃ o a q, ReadsOuter outer o ∧
    ReadsAlternatives alternatives a ∧ Reads .conjunction q φ ∧ p = o ++ a ++ q

theorem ReadsAlternatives.add {alternatives : Option Formula} {a q : Predicate} {φ : Formula}
    (ha : ReadsAlternatives alternatives a) (hq : Reads .conjunction q φ) :
    Reads .disjunction (a ++ q) (Before.add alternatives φ) := by
  cases alternatives with
  | none =>
      obtain rfl : a = [] := ha
      exact .conjunction hq
  | some ψ =>
      obtain ⟨p, rfl, hp⟩ := ha
      simpa [Before.add] using Reads.or hp hq

theorem ReadsFactors.multiply {b : Before} {f q : Predicate} {φ : Formula}
    (hf : ReadsFactors b.factors f) (hq : Reads .factor q φ) :
    Reads .conjunction (f ++ q) (b.multiply φ) := by
  obtain ⟨alternatives, factors⟩ := b
  cases factors with
  | none =>
      obtain rfl : f = [] := hf
      exact .factor hq
  | some ψ =>
      obtain ⟨p, rfl, hp⟩ := hf
      simpa [Before.multiply] using Reads.and hp hq

namespace Reader

end Reader

end DocQuery.Query
