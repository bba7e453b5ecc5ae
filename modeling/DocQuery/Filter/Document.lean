import DocQuery.Value.Basic

/-!
# Filter documents

A filter document maps field names and logical keywords to nodes, in order of first insertion. A
node is a value, a document or a list.
-/

namespace DocQuery

inductive Node where
  | value (v : Value)
  | document (entries : List (String × Node))
  | list (items : List Node)
deriving Repr

/-- An ordered map from field names and logical keywords to nodes. -/
abbrev Document := Entries String Node

namespace Node

instance : Inhabited Node := ⟨.value .null⟩

inductive Kind where
  | value
  | document
  | list
deriving DecidableEq, Repr

def Kind.name : Kind → String
  | .value => "value"
  | .document => "document"
  | .list => "list"

def kind : Node → Kind
  | .value _ => .value
  | .document _ => .document
  | .list _ => .list

mutual

def toJson : Node → Json
  | .value v => v.toJson
  | .document entries => .ofMembers (entriesToJson entries)
  | .list items => .arr (listToJson items)

def entriesToJson : List (String × Node) → List (String × Json)
  | [] => []
  | (k, n) :: rest => (k, n.toJson) :: entriesToJson rest

def listToJson : List Node → List Json
  | [] => []
  | n :: rest => n.toJson :: listToJson rest

end

mutual

/-- The node of a JSON value: objects become documents, arrays lists and all else values. -/
def ofJson : Json → Node
  | .obj members => .document (Entries.ofList (entriesOfJson members))
  | .arr elements => .list (listOfJson elements)
  | .null => .value .null
  | .bool b => .value (.boolean b)
  | .num n => .value (.ofJson (.num n))
  | .str s => .value (.string s)

def entriesOfJson : List (String × Json) → List (String × Node)
  | [] => []
  | (k, j) :: rest => (k, ofJson j) :: entriesOfJson rest

def listOfJson : List Json → List Node
  | [] => []
  | j :: rest => ofJson j :: listOfJson rest

end

/-- The text of a node as an argument in a query: the literal of a value, compact JSON otherwise. -/
def literal : Node → String
  | .value v => v.literal
  | n => n.toJson.compact

end Node

namespace Document

def toJson (d : Document) : Json := .ofMembers (Node.entriesToJson d)

def ofJsonMembers (members : List (String × Json)) : Document :=
  Entries.ofList (Node.entriesOfJson members)

end Document
end DocQuery
