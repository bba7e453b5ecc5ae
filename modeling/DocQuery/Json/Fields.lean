import DocQuery.Json.Basic

/-!
# Records in JSON

A record with named fields is an object with those members, in which others are passed over, or a
list of the fields in their order.
-/

namespace DocQuery.Json

/-- The fields of a record, all of which have to be there. -/
def fields? (names : List String) : Json → Option (List Json)
  | .obj members => names.mapM fun name => Entries.get? members name
  | .arr elements => if elements.length = names.length then some elements else none
  | _ => none

/-- The fields of a record, any of which may be left out; a list leaves out the last ones. -/
def optionalFields? (names : List String) : Json → Option (List (Option Json))
  | .obj members => some (names.map fun name => Entries.get? members name)
  | .arr elements =>
    if elements.length ≤ names.length then
      some (elements.map some ++ List.replicate (names.length - elements.length) none)
    else none
  | _ => none

def readField? {α : Type} (read : Json → Option α) (default : α) : Option Json → Option α
  | some j => read j
  | none => some default

end DocQuery.Json
