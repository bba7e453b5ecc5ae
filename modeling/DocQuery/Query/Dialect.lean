/-!
# The query dialect

How a selection is worded: the name of the root collection and the alias under which its fields are
addressed.
-/

namespace DocQuery.Query

structure Dialect where
  root : String
  aliasName : String
deriving DecidableEq, Repr

namespace Dialect

def standard : Dialect := ⟨"root", "r"⟩

instance : Inhabited Dialect := ⟨standard⟩

def name (_ : Dialect) : String := "DocumentDB SQL"

def base (d : Dialect) : String := "SELECT * FROM " ++ d.root ++ " " ++ d.aliasName

def fieldRef (d : Dialect) (field : String) : String := d.aliasName ++ "." ++ field

/-- The selection of what satisfies a predicate; the empty predicate selects everything. -/
def selectWhere (d : Dialect) (predicate : String) : String :=
  if predicate.isEmpty then d.base else d.base ++ " WHERE " ++ predicate

end Dialect
end DocQuery.Query
