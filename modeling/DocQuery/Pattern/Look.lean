import DocQuery.Text.WordChar

/-!
# Conditions on a position

Every condition on a position in a text is decided by the characters on its two sides.
-/

namespace DocQuery.Pattern

open Text

/-- The conditions about words: which sides have to be a word character, or differ in it. -/
inductive WordLook where
  | boundary
  | interior
  | start
  | finish
  | startHalf
  | finishHalf
deriving DecidableEq, Repr

/-- A condition on a position. Lines end at a line feed or, if `crlf` is set, at a carriage return,
a line feed or the two together. -/
inductive Look where
  | textStart
  | textEnd
  | lineStart (crlf : Bool)
  | lineEnd (crlf : Bool)
  | word (w : WordLook) (unicode : Bool)
deriving DecidableEq, Repr

def isAsciiWordChar (c : Char) : Bool := c.isAlphanum || c = '_'

namespace WordLook

def holds (w : WordLook) (before after : Bool) : Bool :=
  match w with
  | .boundary => before != after
  | .interior => before == after
  | .start => !before && after
  | .finish => before && !after
  | .startHalf => !before
  | .finishHalf => !after

end WordLook

namespace Look

/-- Decides a condition by the characters before and after the position; at an end of the text there
is none. -/
def holds (l : Look) (before after : Option Char) : Bool :=
  match l with
  | .textStart => before.isNone
  | .textEnd => after.isNone
  | .lineStart false => before.isNone || before = some '\n'
  | .lineEnd false => after.isNone || after = some '\n'
  | .lineStart true =>
    before.isNone || before = some '\n' || (before = some '\r' && after != some '\n')
  | .lineEnd true =>
    after.isNone || after = some '\r' || (after = some '\n' && before != some '\r')
  | .word w unicode =>
    let isWord := fun c => if unicode then isWordChar c else isAsciiWordChar c
    w.holds (before.any isWord) (after.any isWord)

end Look
end DocQuery.Pattern
