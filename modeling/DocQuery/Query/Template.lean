import DocQuery.Text.Decimal
import DocQuery.Text.Digit

/-!
# Templates

A template is a text with numbered slots, as in `{0} > {1}`. Filling it puts an argument in the
place of each slot in one pass: what has been put in is not looked at again, and a slot without an
argument stays as it is.
-/

namespace DocQuery.Query

open Text

structure Template where
  text : String
deriving DecidableEq, Repr

/-- A part of a template: a character, or a slot by the digits between its braces. -/
inductive Piece where
  | plain (c : Char)
  | slot (digits : List Char)
deriving DecidableEq, Repr

namespace Piece

def chars : Piece → List Char
  | .plain c => [c]
  | .slot ds => '{' :: (ds ++ ['}'])

/-- The argument number of a slot: only the ten usual digits count, and the number has to fit in
sixty-four bits. -/
def index? (ds : List Char) : Option Nat :=
  if ds.all isDecimal ∧ decimalValue ds < 0x10000000000000000 then some (decimalValue ds) else none

def fill (args : List String) : Piece → List Char
  | .plain c => [c]
  | .slot ds =>
    match (index? ds).bind (args[·]?) with
    | some arg => arg.toList
    | none => (Piece.slot ds).chars

end Piece

namespace Template

/-- The digits of a slot and what follows it, if a text that has lost its first brace starts with
the rest of a slot. -/
def slot? (cs : List Char) : Option (List Char × List Char) :=
  match cs.takeWhile isDigit, cs.dropWhile isDigit with
  | d :: ds, '}' :: rest => some (d :: ds, rest)
  | _, _ => none

/-- The parts of a text, slots being found from left to right. -/
def piecesAux : (fuel : Nat) → List Char → List Piece
  | 0, _ => []
  | _, [] => []
  | fuel + 1, c :: rest =>
    if c = '{' then
      match slot? rest with
      | some (ds, rest) => .slot ds :: piecesAux fuel rest
      | none => .plain c :: piecesAux fuel rest
    else .plain c :: piecesAux fuel rest

def pieces (t : Template) : List Piece := piecesAux t.text.toList.length t.text.toList

def fill (t : Template) (args : List String) : String :=
  String.ofList (t.pieces.flatMap (Piece.fill args))

end Template
end DocQuery.Query
