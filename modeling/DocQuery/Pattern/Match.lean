import DocQuery.Pattern.Expr
import DocQuery.Pattern.Regex

/-!
# Matching

A set of positions in a text of `n` characters is a number whose bits `0` to `n` tell which
positions belong to it. An expression leads from a set of positions, where its matches begin, to the
set of positions where they end. A step shifts the positions that precede a member of its set, so
that all positions are followed at once and the work grows with the product of the lengths of
expression and text.
-/

namespace DocQuery.Pattern

open Text

/-- A set of positions as a number. -/
abbrev Positions := Nat

namespace Positions

/-- The set with the given membership bits, the first for position zero. -/
def ofBits : List Bool → Positions
  | [] => 0
  | b :: bs => 2 * ofBits bs + b.toNat

def minus (s t : Positions) : Positions := s ^^^ (s &&& t)

/-- Applies `f` exactly `count` times. A set that `f` maps to itself stays as it is. -/
def times (f : Positions → Positions) : (count : Nat) → Positions → Positions
  | 0, s => s
  | count + 1, s =>
    let t := f s
    if t = s then s else times f count t

/-- Everything that at most `count` applications of `f` reach, where `seen` has been reached before
and `fresh` by the last one. -/
def reachAux (f : Positions → Positions) :
    (count : Nat) → (seen fresh : Positions) → Positions
  | 0, seen, _ => seen
  | count + 1, seen, fresh =>
    let next := minus (f fresh) seen
    if next = 0 then seen else reachAux f count (seen ||| next) next

def reach (f : Positions → Positions) (count : Nat) (s : Positions) : Positions :=
  reachAux f count s s

end Positions

namespace Regex

/-- Where the matches end that begin at the given positions of a text of `length` characters. Steps
and conditions are given by the positions that they hold at. -/
def ends (length : Nat) : Regex Positions Positions → Positions → Positions
  | .empty, s => s
  | .step m, s => (s &&& m) <<< 1
  | .look m, s => s &&& m
  | .seq a b, s => b.ends length (a.ends length s)
  | .alt a b, s => a.ends length s ||| b.ends length s
  | .repetition least most a, s =>
    let rest := match most with
      | some most => min (most - least) (length + 1)
      | none => length + 1
    Positions.reach (a.ends length) rest (Positions.times (a.ends length) least s)

def contexts (before : Option Char) : List Char → List (Option Char × Option Char)
  | [] => [(before, none)]
  | c :: cs => (before, some c) :: contexts (some c) cs

/-- Lays an expression over a text. -/
def located (text : List Char) (r : Regex CharSet Look) : Regex Positions Positions :=
  let contexts := contexts none text
  r.map (fun s => .ofBits (text.map s.contains))
    (fun l => .ofBits (contexts.map fun (before, after) => l.holds before after))

def isMatch (r : Regex CharSet Look) (text : List Char) : Bool :=
  (r.located text).ends text.length (Nat.pow 2 (text.length + 1) - 1) != 0

end Regex

namespace Expr

mutual

/-- What an expression matches, without groups and preferences. -/
def regex : Expr → Regex CharSet Look
  | .empty => .empty
  | .literal cs => cs.foldr (fun c r => .seq (.step (.single c)) r) .empty
  | .set s => .step s
  | .look l => .look l
  | .repetition least most _ e => .repetition least most e.regex
  | .capture _ e => e.regex
  | .concat es => sequenceRegex es
  | .alternation es => choiceRegex es

def sequenceRegex : List Expr → Regex CharSet Look
  | [] => .empty
  | e :: es => .seq e.regex (sequenceRegex es)

def choiceRegex : List Expr → Regex CharSet Look
  | [] => .step .empty
  | [e] => e.regex
  | e :: es => .alt e.regex (choiceRegex es)

end

def isMatch (e : Expr) (text : List Char) : Bool := e.regex.isMatch text

end Expr
end DocQuery.Pattern
