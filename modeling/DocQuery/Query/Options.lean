import DocQuery.Json.Fields
import DocQuery.Query.Compiler

/-!
# Compiler options as JSON

A missing field has its default. A policy is its name, alone or as the key of an object that holds
`null`.
-/

namespace DocQuery.Query

namespace EmptyListPolicy

def name : EmptyListPolicy → String
  | .skip => "omit"
  | .literal => "literal"
  | .reject => "reject"

def ofName? : String → Option EmptyListPolicy
  | "omit" => some .skip
  | "literal" => some .literal
  | "reject" => some .reject
  | _ => none

def ofJson? : Json → Option EmptyListPolicy
  | .str name => ofName? name
  | .obj [(name, .null)] => ofName? name
  | _ => none

end EmptyListPolicy

namespace Options

def toJson (o : Options) : Json := .obj [("empty_list", .str o.emptyList.name)]

def ofJson? (j : Json) : Option Options := do
  match ← j.optionalFields? ["empty_list"] with
  | [policy] =>
    return ⟨← Json.readField? EmptyListPolicy.ofJson? (default : Options).emptyList policy⟩
  | _ => none

end Options
end DocQuery.Query
