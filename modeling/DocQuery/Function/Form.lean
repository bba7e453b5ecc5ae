import DocQuery.Function.Requirement
import DocQuery.Json.Fields

/-!
# Requirements and records as JSON
-/

namespace DocQuery

namespace Requirement

def toJson (r : Requirement) : Json := .obj [("id", .str r.id), ("body", .str r.body)]

def ofJson? (j : Json) : Option Requirement := do
  match ← j.fields? ["id", "body"] with
  | [id, body] => return ⟨← id.str?, ← body.str?⟩
  | _ => none

theorem ofJson?_toJson (r : Requirement) : ofJson? r.toJson = some r := rfl

end Requirement

namespace Record

def toJson (r : Record) : Json :=
  .obj [("id", .str r.id), ("body", .str r.body), ("handle", .str r.handle)]

def ofJson? (j : Json) : Option Record := do
  match ← j.fields? ["id", "body", "handle"] with
  | [id, body, handle] => return ⟨← id.str?, ← body.str?, ← handle.str?⟩
  | _ => none

theorem ofJson?_toJson (r : Record) : ofJson? r.toJson = some r := rfl

end Record
end DocQuery
