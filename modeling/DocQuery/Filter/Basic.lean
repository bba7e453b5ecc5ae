import DocQuery.Filter.Document
import DocQuery.Json.Parser

/-!
# Filters

A filter is a raw predicate, which is passed on untouched, or a document.
-/

namespace DocQuery

inductive Filter where
  | raw (predicate : String)
  | document (d : Document)
deriving Repr

namespace Filter

/-- The kinds of JSON values that are no filter. -/
inductive RootKind where
  | boolean
  | number
  | array
deriving DecidableEq, Repr

def RootKind.name : RootKind → String
  | .boolean => "boolean"
  | .number => "number"
  | .array => "array"

inductive Error where
  | notJson
  | unexpectedRoot (found : RootKind)
deriving DecidableEq, Repr

def Error.message : Error → String
  | .notJson => "filter is not valid JSON"
  | .unexpectedRoot found =>
    "filter root must be an object, a string or null, found " ++ found.name

def empty : Filter := .document []

instance : Inhabited Filter := ⟨empty⟩

/-- Whether the filter selects every document because nothing is in it. -/
def isEmpty : Filter → Bool
  | .raw predicate => predicate.isEmpty
  | .document d => d.isEmpty

/-- The filter of a JSON value: an object is a document, a string a raw predicate. -/
def ofJson : Json → Except Error Filter
  | .null => .ok empty
  | .str s => .ok (.raw s)
  | .obj members => .ok (.document (.ofJsonMembers members))
  | .bool _ => .error (.unexpectedRoot .boolean)
  | .num _ => .error (.unexpectedRoot .number)
  | .arr _ => .error (.unexpectedRoot .array)

/-- The filter of a JSON text. What follows the value is looked at only after the value has been
found to be a filter. -/
def parse (text : String) : Except Error Filter :=
  match Json.readValue text.toList with
  | none => .error .notJson
  | some (j, rest) => do
    let f ← ofJson j
    if Json.skipGaps rest = [] then return f else throw .notJson

end Filter
end DocQuery
