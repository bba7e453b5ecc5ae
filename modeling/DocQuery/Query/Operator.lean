import DocQuery.Function.Basic

/-!
# Operators on a field

An operator compares a field with an operand, either by an inline comparison or by a call of a
server-side function.
-/

namespace DocQuery.Query

inductive Comparison where
  | gt
  | gte
  | lt
  | lte
  | ne
deriving DecidableEq, Repr

namespace Comparison

def all : List Comparison := [.gt, .gte, .lt, .lte, .ne]

def id : Comparison → String
  | .gt => "$gt"
  | .gte => "$gte"
  | .lt => "$lt"
  | .lte => "$lte"
  | .ne => "$ne"

def symbol : Comparison → String
  | .gt => ">"
  | .gte => ">="
  | .lt => "<"
  | .lte => "<="
  | .ne => "<>"

end Comparison

inductive Operator where
  | compare (c : Comparison)
  | call (f : ServerFunction)
deriving DecidableEq, Repr

namespace Operator

def functionId : ServerFunction → String
  | .membership => "$in"
  | .uniformity => "$all"
  | .size => "$size"
  | .pattern => "$regex"
  | .type => "$type"

def id : Operator → String
  | .compare c => c.id
  | .call f => functionId f

/-- The wording of an operator, with slots for the field and the operand. -/
def template : Operator → Template
  | .compare c => ⟨"\x7b0\x7d " ++ c.symbol ++ " \x7b1\x7d"⟩
  | .call f => f.call

def function? : Operator → Option ServerFunction
  | .compare _ => none
  | .call f => some f

def all : List Operator := Comparison.all.map .compare ++ ServerFunction.all.map .call

def ofId? (id : String) : Option Operator := all.find? (·.id = id)

end Operator

def equality : Template := ⟨"\x7b0\x7d=\x7b1\x7d"⟩

end DocQuery.Query
