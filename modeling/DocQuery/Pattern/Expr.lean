import DocQuery.Pattern.Look
import DocQuery.Text.CharSet

/-!
# Expressions

What remains of a pattern when its flags have been taken into account. The functions that make an
expression keep it simple: neighbouring literals are one literal, a set of one character is a
literal, alternatives of single characters are a set, what all alternatives begin with stands in
front of them, and what matches the empty text only is not repeated.
-/

namespace DocQuery.Pattern

open Text

inductive Expr where
  | empty
  | literal (cs : List Char)
  | set (s : CharSet)
  | look (l : Look)
  | repetition (least : Nat) (most : Option Nat) (greedy : Bool) (e : Expr)
  | capture (index : Nat) (e : Expr)
  | concat (es : List Expr)
  | alternation (es : List Expr)
deriving BEq, Repr

namespace Expr

/-! ## What an expression can match -/

mutual

def onlyEmpty : Expr → Bool
  | .empty => true
  | .look _ => true
  | .literal cs => cs.isEmpty
  | .set _ => false
  | .repetition _ most _ e => most.isSome && e.onlyEmpty
  | .capture _ e => e.onlyEmpty
  | .concat es => allOnlyEmpty es
  | .alternation es => allOnlyEmpty es

def allOnlyEmpty : List Expr → Bool
  | [] => true
  | e :: es => e.onlyEmpty && allOnlyEmpty es

end

mutual

/-- The length of the shortest text that an expression matches, by its form alone. The empty set
matches nothing, and neither does what cannot do without it. -/
def minLength? : Expr → Option Nat
  | .empty => some 0
  | .look _ => some 0
  | .literal cs => some cs.length
  | .set s => if s.intervals.isEmpty then none else some 1
  | .repetition least _ _ e => e.minLength?.map (least * ·)
  | .capture _ e => e.minLength?
  | .concat es => sumMinLength? es
  | .alternation es => leastMinLength? es

def sumMinLength? : List Expr → Option Nat
  | [] => some 0
  | e :: es => do return (← e.minLength?) + (← sumMinLength? es)

def leastMinLength? : List Expr → Option Nat
  | [] => none
  | [e] => e.minLength?
  | e :: es => do return min (← e.minLength?) (← leastMinLength? es)

end

def consumes (e : Expr) : Bool := e.minLength?.any (0 < ·)

mutual

def startsText : Expr → Bool
  | .empty => false
  | .look l => l == .textStart
  | .literal _ => false
  | .set _ => false
  | .repetition least _ _ e => 0 < least && e.startsText
  | .capture _ e => e.startsText
  | .concat es => leadStartsText es
  | .alternation es => allStartText es

/-- Whether one of the expressions up to the first that can take a character starts the text. -/
def leadStartsText : List Expr → Bool
  | [] => false
  | e :: es => e.startsText || (e.onlyEmpty && leadStartsText es)

def allStartText : List Expr → Bool
  | [] => true
  | e :: es => e.startsText && allStartText es

end

mutual

def endsText : Expr → Bool
  | .empty => false
  | .look l => l == .textEnd
  | .literal _ => false
  | .set _ => false
  | .repetition least _ _ e => 0 < least && e.endsText
  | .capture _ e => e.endsText
  | .concat es => trailEndsText es
  | .alternation es => allEndText es

/-- Whether one of the expressions from the last that can take a character on ends the text. -/
def trailEndsText : List Expr → Bool
  | [] => false
  | e :: es => trailEndsText es || (allOnlyEmpty es && e.endsText)

def allEndText : List Expr → Bool
  | [] => true
  | e :: es => e.endsText && allEndText es

end

/-! ## Making expressions -/

mutual

def size : Expr → Nat
  | .empty => 1
  | .literal _ => 1
  | .set _ => 1
  | .look _ => 1
  | .repetition _ _ _ e => e.size + 1
  | .capture _ e => e.size + 1
  | .concat es => sizes es + 1
  | .alternation es => sizes es + 1

def sizes : List Expr → Nat
  | [] => 0
  | e :: es => e.size + sizes es

end

def ofSet (s : CharSet) : Expr :=
  match s.intervals with
  | [(low, high)] => if low = high then .literal [Char.ofNat low] else .set s
  | _ => .set s

def repeated (least : Nat) (most : Option Nat) (greedy : Bool) (e : Expr) : Expr :=
  let (least, most) :=
    if e.onlyEmpty then (min least 1, some ((most.map (min · 1)).getD 1)) else (least, most)
  if least = 0 ∧ most = some 0 then .empty
  else if least = 1 ∧ most = some 1 then e
  else .repetition least most greedy e

def sequents : Expr → List Expr
  | .empty => []
  | .concat es => es
  | e => [e]

/-- Makes one literal of literals that stand side by side. -/
def joinLiterals : List Expr → List Expr
  | [] => []
  | .literal cs :: es =>
    match joinLiterals es with
    | .literal ds :: rest => .literal (cs ++ ds) :: rest
    | rest => .literal cs :: rest
  | e :: es => e :: joinLiterals es

def sequence (es : List Expr) : Expr :=
  match joinLiterals (es.flatMap sequents) with
  | [] => .empty
  | [e] => e
  | es => .concat es

def alternatives : Expr → List Expr
  | .alternation es => es
  | e => [e]

def code? : Expr → Option Nat
  | .literal [c] => some c.toNat
  | _ => none

def set? : Expr → Option CharSet
  | .set s => some s
  | _ => none

/-- The set of the characters that the alternatives are, or of the sets. -/
def asSet? (es : List Expr) : Option CharSet :=
  ((es.mapM code?).map CharSet.ofCodes).or ((es.mapM set?).map CharSet.unions)

def commonCount : List Expr → List Expr → Nat
  | x :: xs, y :: ys => if x == y then commonCount xs ys + 1 else 0
  | _, _ => 0

def commonFront : List Expr → List Expr → List Expr
  | front, [] => front
  | front, .concat es :: rest => commonFront (front.take (commonCount front es)) rest
  | _, _ => []

/-- One or another, flattened and taken together as far as `fuel` goes. -/
def choiceAux : (fuel : Nat) → List Expr → Expr
  | 0, es => .alternation es
  | fuel + 1, es =>
    match es.flatMap alternatives with
    | [] => .set .empty
    | [e] => e
    | first :: rest =>
      let es := first :: rest
      match asSet? es, commonFront (match first with | .concat fs => fs | _ => []) rest with
      | some s, _ => ofSet s
      | none, [] => .alternation es
      | none, front =>
        let tails := es.map fun e => sequence (e.sequents.drop front.length)
        sequence (front ++ [choiceAux fuel tails])

def choice (es : List Expr) : Expr := choiceAux (sizes es + 1) es

end Expr
end DocQuery.Pattern
