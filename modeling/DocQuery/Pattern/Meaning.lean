import DocQuery.Pattern.Expr
import DocQuery.Pattern.Parser
import DocQuery.Pattern.Property
import DocQuery.Text.CaseFold
import DocQuery.Text.Digit

/-!
# What a pattern means

Flags take effect from where they stand to the end of the group, over later alternatives too. With
the Unicode flag off, the classes are those of ASCII, and whatever could match a part of a character
is refused: the dot, complements, and codes above 127.
-/

namespace DocQuery.Pattern

open Text

/-- The flags that bear on what an expression is. -/
structure Modes where
  ignoreCase : Bool := false
  multiLine : Bool := false
  dotAll : Bool := false
  swapGreed : Bool := false
  crlf : Bool := false
  unicode : Bool := true
deriving DecidableEq, Repr

namespace Modes

def apply (m : Modes) (f : FlagChange) : Modes where
  ignoreCase := (f.value? .ignoreCase).getD m.ignoreCase
  multiLine := (f.value? .multiLine).getD m.multiLine
  dotAll := (f.value? .dotAll).getD m.dotAll
  swapGreed := (f.value? .swapGreed).getD m.swapGreed
  crlf := (f.value? .crlf).getD m.crlf
  unicode := (f.value? .unicode).getD m.unicode

/-- Closes a set under case folding if case is ignored, and then complements it if asked for. -/
def foldAndNegate (m : Modes) (negated : Bool) (s : CharSet) : Option CharSet :=
  if negated && !m.unicode then none
  else some ((s.foldedIf m.ignoreCase m.unicode).negatedIf negated)

end Modes

def Literal.char? (m : Modes) (l : Literal) : Option Char :=
  if l.asByte && !m.unicode && 0x80 ≤ l.char.toNat then none else some l.char

def Literal.classChar? (m : Modes) (l : Literal) : Option Char :=
  if !m.unicode && 0x80 ≤ l.char.toNat then none else some l.char

namespace AsciiClass

def charSet : AsciiClass → CharSet
  | .alnum => ⟨[(0x30, 0x39), (0x41, 0x5A), (0x61, 0x7A)]⟩
  | .alpha => ⟨[(0x41, 0x5A), (0x61, 0x7A)]⟩
  | .ascii => ⟨[(0x00, 0x7F)]⟩
  | .blank => ⟨[(0x09, 0x09), (0x20, 0x20)]⟩
  | .cntrl => ⟨[(0x00, 0x1F), (0x7F, 0x7F)]⟩
  | .digit => ⟨[(0x30, 0x39)]⟩
  | .graph => ⟨[(0x21, 0x7E)]⟩
  | .lower => ⟨[(0x61, 0x7A)]⟩
  | .print => ⟨[(0x20, 0x7E)]⟩
  | .punct => ⟨[(0x21, 0x2F), (0x3A, 0x40), (0x5B, 0x60), (0x7B, 0x7E)]⟩
  | .space => ⟨[(0x09, 0x0D), (0x20, 0x20)]⟩
  | .upper => ⟨[(0x41, 0x5A)]⟩
  | .word => ⟨[(0x30, 0x39), (0x41, 0x5A), (0x5F, 0x5F), (0x61, 0x7A)]⟩
  | .xdigit => ⟨[(0x30, 0x39), (0x41, 0x46), (0x61, 0x66)]⟩

end AsciiClass

namespace LetterClass

def charSet (unicode : Bool) : LetterClass → CharSet
  | .digit => if unicode then digits else AsciiClass.digit.charSet
  | .space => if unicode then blanks else AsciiClass.space.charSet
  | .word => if unicode then wordChars else AsciiClass.word.charSet

/-- The set of a class letter, whose case is not folded. -/
def charSet? (m : Modes) (c : LetterClass) (negated : Bool) : Option CharSet :=
  if negated && !m.unicode then none else some ((c.charSet m.unicode).negatedIf negated)

end LetterClass

/-- The set of a property class. Properties are known only while the Unicode flag is on. -/
def PropertyClass.charSet? (m : Modes) (p : PropertyClass) : Option CharSet := do
  if !m.unicode then none
  m.foldAndNegate p.negated (← p.property?)

namespace ClassSet

mutual

def charSet? (m : Modes) : ClassSet → Option CharSet
  | .literal l => (l.classChar? m).map CharSet.single
  | .range low high => do return .range (← low.classChar? m) (← high.classChar? m)
  | .ascii c negated => m.foldAndNegate negated c.charSet
  | .letter c negated => c.charSet? m negated
  | .property p => p.charSet? m
  | .bracketed negated s => do m.foldAndNegate negated (← s.charSet? m)
  | .union items => unionOf? m items
  | .op o left right => do
    let s := (← left.charSet? m).foldedIf m.ignoreCase m.unicode
    let t := (← right.charSet? m).foldedIf m.ignoreCase m.unicode
    return match o with
      | .intersection => s.inter t
      | .difference => s.diff t
      | .symmetricDifference => s.symmDiff t

def unionOf? (m : Modes) : List ClassSet → Option CharSet
  | [] => some .empty
  | s :: ss => do return (← s.charSet? m).union (← unionOf? m ss)

end

end ClassSet

def Assertion.look (m : Modes) : Assertion → Look
  | .lineStart => if m.multiLine then .lineStart m.crlf else .textStart
  | .lineEnd => if m.multiLine then .lineEnd m.crlf else .textEnd
  | .textStart => .textStart
  | .textEnd => .textEnd
  | .wordBoundary => .word .boundary m.unicode
  | .notWordBoundary => .word .interior m.unicode
  | .wordStart => .word .start m.unicode
  | .wordEnd => .word .finish m.unicode
  | .wordStartHalf => .word .startHalf m.unicode
  | .wordEndHalf => .word .finishHalf m.unicode

def dot? (m : Modes) : Option CharSet :=
  if !m.unicode then none
  else if m.dotAll then some .any
  else some (CharSet.ofCodes (if m.crlf then [0xA, 0xD] else [0xA])).compl

namespace Ast

mutual

/-- The expression that a pattern stands for, and the modes after it. -/
def expr? (m : Modes) : Ast → Option (Expr × Modes)
  | .empty => some (.empty, m)
  | .flags f => some (.empty, m.apply f)
  | .literal l => do
    return (.ofSet ((CharSet.single (← l.char? m)).foldedIf m.ignoreCase m.unicode), m)
  | .dot => (dot? m).map fun s => (.ofSet s, m)
  | .assertion a => some (.look (a.look m), m)
  | .letter c negated => (c.charSet? m negated).map fun s => (.ofSet s, m)
  | .property p => (p.charSet? m).map fun s => (.ofSet s, m)
  | .bracketed negated s => do return (.ofSet (← m.foldAndNegate negated (← s.charSet? m)), m)
  | .repetition least most greedy a => do
    let (e, m) ← a.expr? m
    return (.repeated least most (greedy != m.swapGreed) e, m)
  | .group f a => do
    let (e, _) ← a.expr? (m.apply f)
    return (e, m)
  | .capture index a => do
    let (e, _) ← a.expr? m
    return (.capture index e, m)
  | .alternation as => do
    let (es, m) ← exprs? m as
    return (.choice es, m)
  | .concat as => do
    let (es, m) ← exprs? m as
    return (.sequence es, m)

def exprs? (m : Modes) : List Ast → Option (List Expr × Modes)
  | [] => some ([], m)
  | a :: as => do
    let (e, m) ← a.expr? m
    let (es, m) ← exprs? m as
    return (e :: es, m)

end

end Ast
end DocQuery.Pattern
