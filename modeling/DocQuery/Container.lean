/-!
# Containers

A database or a collection of the store, by its link. Only collections host functions.
-/

namespace DocQuery

inductive Container where
  | database (link : String)
  | collection (link : String)
deriving DecidableEq, Repr

namespace Container

def link : Container → String
  | .database l => l
  | .collection l => l

def kindName : Container → String
  | .database _ => "database"
  | .collection _ => "collection"

/-- How messages name a container. -/
def display (c : Container) : String := c.kindName ++ " `" ++ c.link ++ "`"

def hostsFunctions : Container → Bool
  | .database _ => false
  | .collection _ => true

end Container
end DocQuery
