/-!
# Predicates as tokens

A compiled predicate is a sequence of tokens, and its text is the texts of the tokens one after the
other. The leaves are comparisons of a field, or calls of a function; their text is not looked into.
-/

namespace DocQuery.Query

/-- A comparison of a field with a value, or a call of a function on a field. -/
structure Leaf where
  text : String
  /-- The name of the function that is called, if one is. -/
  function : Option String
deriving DecidableEq, Repr

inductive Token where
  | leaf (l : Leaf)
  | truth (b : Bool)
  | and
  | or
  | notOpen
  | lparen
  | rparen
deriving DecidableEq, Repr

def Token.text : Token → String
  | .leaf l => l.text
  | .truth b => if b then "true" else "false"
  | .and => " AND "
  | .or => " OR "
  | .notOpen => "NOT("
  | .lparen => "("
  | .rparen => ")"

/-- A predicate; the empty one places no constraint. -/
abbrev Predicate := List Token

namespace Predicate

def text (p : Predicate) : String := String.join (p.map Token.text)

def calls (p : Predicate) : List String :=
  p.filterMap fun
    | .leaf l => l.function
    | _ => none

def join (connective : Token) (parts : List Predicate) : Predicate :=
  List.intercalate [connective] parts

def paren (p : Predicate) : Predicate := .lparen :: (p ++ [.rparen])

/-- The negation of a predicate; one that places no constraint stays so. -/
def negate (p : Predicate) : Predicate := if p = [] then [] else .notOpen :: (p ++ [.rparen])

/-- Several parts in parentheses, a single one as it is. -/
def group (connective : Token) (parts : List Predicate) : Predicate :=
  match parts with
  | [] => []
  | [p] => p
  | parts => paren (join connective parts)

end Predicate
end DocQuery.Query
