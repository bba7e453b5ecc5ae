import DocQuery.Container
import DocQuery.Json.Basic

/-!
# Containers as JSON

An object whose only member is named for the kind of the container and holds its link.
-/

namespace DocQuery.Container

def tag : Container → String
  | .database _ => "Database"
  | .collection _ => "Collection"

def toTagged (c : Container) : Json := .obj [(c.tag, .str c.link)]

def ofTagged? : Json → Option Container
  | .obj [(tag, .str link)] =>
    if tag = "Database" then some (.database link)
    else if tag = "Collection" then some (.collection link)
    else none
  | _ => none

theorem ofTagged?_toTagged (c : Container) : ofTagged? c.toTagged = some c := by
  cases c <;> rfl

end DocQuery.Container
