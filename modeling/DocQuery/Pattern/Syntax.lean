/-!
# Patterns as they are written

The parts of a pattern before the flags in force have been taken into account.
-/

namespace DocQuery.Pattern

inductive Flag where
  | ignoreCase
  | multiLine
  | dotAll
  | swapGreed
  | unicode
  | crlf
  | verbose
deriving DecidableEq, Repr

def Flag.ofChar? : Char → Option Flag
  | 'i' => some .ignoreCase
  | 'm' => some .multiLine
  | 's' => some .dotAll
  | 'U' => some .swapGreed
  | 'u' => some .unicode
  | 'R' => some .crlf
  | 'x' => some .verbose
  | _ => none

structure FlagChange where
  on : List Flag
  off : List Flag
deriving DecidableEq, Repr

def FlagChange.value? (f : FlagChange) (flag : Flag) : Option Bool :=
  if flag ∈ f.off then some false else if flag ∈ f.on then some true else none

/-- A character, and whether it was written as two hexadecimal digits after `\x`. -/
structure Literal where
  char : Char
  asByte : Bool
deriving DecidableEq, Repr

inductive Assertion where
  | lineStart
  | lineEnd
  | textStart
  | textEnd
  | wordBoundary
  | notWordBoundary
  | wordStart
  | wordEnd
  | wordStartHalf
  | wordEndHalf
deriving DecidableEq, Repr

inductive LetterClass where
  | digit
  | space
  | word
deriving DecidableEq, Repr

inductive AsciiClass where
  | alnum
  | alpha
  | ascii
  | blank
  | cntrl
  | digit
  | graph
  | lower
  | print
  | punct
  | space
  | upper
  | word
  | xdigit
deriving DecidableEq, Repr

def AsciiClass.ofName? : String → Option AsciiClass
  | "alnum" => some .alnum
  | "alpha" => some .alpha
  | "ascii" => some .ascii
  | "blank" => some .blank
  | "cntrl" => some .cntrl
  | "digit" => some .digit
  | "graph" => some .graph
  | "lower" => some .lower
  | "print" => some .print
  | "punct" => some .punct
  | "space" => some .space
  | "upper" => some .upper
  | "word" => some .word
  | "xdigit" => some .xdigit
  | _ => none

/-- A class by a character property: its name, and a value if one was given. -/
structure PropertyClass where
  name : String
  value : Option String
  negated : Bool
deriving DecidableEq, Repr

inductive ClassOp where
  | intersection
  | difference
  | symmetricDifference
deriving DecidableEq, Repr

inductive ClassSet where
  | literal (l : Literal)
  | range (low high : Literal)
  | ascii (c : AsciiClass) (negated : Bool)
  | letter (c : LetterClass) (negated : Bool)
  | property (p : PropertyClass)
  | bracketed (negated : Bool) (s : ClassSet)
  | union (items : List ClassSet)
  | op (o : ClassOp) (left right : ClassSet)
deriving Repr

inductive Ast where
  | empty
  | flags (f : FlagChange)
  | literal (l : Literal)
  | dot
  | assertion (a : Assertion)
  | letter (c : LetterClass) (negated : Bool)
  | property (p : PropertyClass)
  | bracketed (negated : Bool) (s : ClassSet)
  /-- At least `least` times and at most `most` times, or without an upper limit. -/
  | repetition (least : Nat) (most : Option Nat) (greedy : Bool) (a : Ast)
  | group (f : FlagChange) (a : Ast)
  /-- A group that is numbered by its opening parenthesis. -/
  | capture (index : Nat) (a : Ast)
  | alternation (as : List Ast)
  | concat (as : List Ast)
deriving Repr

namespace ClassSet

def ofItems : List ClassSet → ClassSet
  | [item] => item
  | items => .union items

mutual

def depth : ClassSet → Nat
  | .bracketed _ s => s.depth + 1
  | .union [] => 0
  | .union items => maxDepth items + 1
  | .op _ a b => max a.depth b.depth + 1
  | .literal _ => 0
  | .range _ _ => 0
  | .ascii _ _ => 0
  | .letter _ _ => 0
  | .property _ => 0

def maxDepth : List ClassSet → Nat
  | [] => 0
  | s :: ss => max s.depth (maxDepth ss)

end

end ClassSet

namespace Ast

def ofItems : List Ast → Ast
  | [] => .empty
  | [a] => a
  | as => .concat as

def ofAlternatives : List Ast → Ast
  | [] => .empty
  | [a] => a
  | as => .alternation as

mutual

def depth : Ast → Nat
  | .bracketed _ s => s.depth + 1
  | .repetition _ _ _ a => a.depth + 1
  | .group _ a => a.depth + 1
  | .capture _ a => a.depth + 1
  | .alternation as => maxDepth as + 1
  | .concat as => maxDepth as + 1
  | .empty => 0
  | .flags _ => 0
  | .literal _ => 0
  | .dot => 0
  | .assertion _ => 0
  | .letter _ _ => 0
  | .property _ => 0

def maxDepth : List Ast → Nat
  | [] => 0
  | a :: as => max a.depth (maxDepth as)

end

end Ast
end DocQuery.Pattern
