import DocQuery.Filter.Document

/-!
# Why a filter does not compile
-/

namespace DocQuery.Query

/-- The keywords that hold a list of documents. -/
inductive ListKeyword where
  | and
  | or
  | nor
deriving DecidableEq, Repr

def ListKeyword.text : ListKeyword → String
  | .and => "$and"
  | .or => "$or"
  | .nor => "$nor"

/-- A part of a filter that does not have the shape its place asks for. -/
inductive Malformed where
  /-- `$not` holds something else than a document. -/
  | notOfDocument (found : Node.Kind)
  /-- A list keyword holds something else than a list. -/
  | notList (key : ListKeyword) (found : Node.Kind)
  /-- An element of a list is no document. -/
  | element (key : ListKeyword) (found : Node.Kind)
  /-- A field has a document without operators. -/
  | noOperators (field : String)
  /-- A field holds a list. -/
  | fieldList (field : String)
deriving DecidableEq, Repr

def Malformed.message : Malformed → String
  | .notOfDocument found => "`$not` expects a document, found a " ++ found.name
  | .notList key found => "`" ++ key.text ++ "` expects a list of documents, found a " ++ found.name
  | .element key found => "`" ++ key.text ++ "` elements must be documents, found a " ++ found.name
  | .noOperators field => "field `" ++ field ++ "` has an empty operator document"
  | .fieldList field =>
    "field `" ++ field ++ "` holds a list; lists are only valid under `$and`, `$or`, `$nor` or " ++
      "as operator arguments"

inductive CompileError where
  /-- An unknown keyword, of a document or among the operators of a field. -/
  | invalidOperator (operator : String) (field : Option String)
  | malformed (defect : Malformed)
  /-- An empty list where empty lists are refused. -/
  | emptyList (key : ListKeyword)
deriving DecidableEq, Repr

def CompileError.message : CompileError → String
  | .invalidOperator operator none => "invalid operator `" ++ operator ++ "`"
  | .invalidOperator operator (some field) =>
    "invalid operator `" ++ operator ++ "` on field `" ++ field ++ "`"
  | .malformed defect => "malformed filter: " ++ defect.message
  | .emptyList key => "empty `" ++ key.text ++ "` list"

end DocQuery.Query
