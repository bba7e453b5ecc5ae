import DocQuery.Function.Requirement
import DocQuery.Query.Template

/-!
# Server-side functions

The functions that operators without an inline form call. Each has a name, the call that a query
makes, and the body that is registered in the store.
-/

namespace DocQuery

inductive ServerFunction where
  | membership
  | uniformity
  | size
  | pattern
  | type
deriving DecidableEq, Repr

namespace ServerFunction

def all : List ServerFunction := [.membership, .uniformity, .size, .pattern, .type]

def name : ServerFunction → String
  | .membership => "inUDF"
  | .uniformity => "allUDF"
  | .size => "sizeUDF"
  | .pattern => "regexUDF"
  | .type => "typeUDF"

/-- The source of a function in the store's script language. -/
def body : ServerFunction → String
  | .membership =>
    "function inUDF(arr, val) \x7b\n" ++
    "    return Array.isArray(arr)\n" ++
    "        ? arr.some(function (e) \x7b return e === val; \x7d)\n" ++
    "        : false;\n" ++
    "\x7d\n"
  | .uniformity =>
    "function allUDF(arr, val) \x7b\n" ++
    "    return Array.isArray(arr)\n" ++
    "        ? arr.every(function (e) \x7b return e === val; \x7d)\n" ++
    "        : false;\n" ++
    "\x7d\n"
  | .size =>
    "function sizeUDF(arr, len) \x7b\n" ++
    "    return arr.length === len;\n" ++
    "\x7d\n"
  | .pattern =>
    "function regexUDF(string, regex) \x7b\n" ++
    "    return new RegExp(regex).test(string);\n" ++
    "\x7d\n"
  | .type =>
    "function typeUDF(object, type) \x7b\n" ++
    "    return typeof object === type;\n" ++
    "\x7d\n"

/-- The call of a function on a field and an operand. -/
def call (f : ServerFunction) : Query.Template := ⟨"udf." ++ f.name ++ "(\x7b0\x7d, \x7b1\x7d)"⟩

def requirement (f : ServerFunction) : Requirement := ⟨f.name, f.body⟩

end ServerFunction
end DocQuery
