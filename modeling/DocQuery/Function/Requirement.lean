/-!
# Functions that a query needs

A requirement names a server-side function and carries its body. A record is a function as a catalog
holds it, with the handle under which the store knows it.
-/

namespace DocQuery

/-- A function that has to exist before a query can run. -/
structure Requirement where
  id : String
  body : String
deriving DecidableEq, Repr

structure Record where
  id : String
  body : String
  handle : String
deriving DecidableEq, Repr

namespace Requirement

/-- Keeps the first requirement of each id, given the ids that have been met before. -/
def dedupAux (met : List String) : List Requirement → List Requirement
  | [] => []
  | r :: rs => if r.id ∈ met then dedupAux met rs else r :: dedupAux (r.id :: met) rs

def dedup (rs : List Requirement) : List Requirement := dedupAux [] rs

end Requirement
end DocQuery
