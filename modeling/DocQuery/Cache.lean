import DocQuery.Container
import DocQuery.Entries
import DocQuery.Function.Requirement

/-!
# Functions known to exist

What a provisioner remembers of the functions in each container. Entries come from listings and from
creates, and go only when they are asked to.
-/

namespace DocQuery

abbrev FunctionCache := Entries String Record

namespace FunctionCache

def put (c : FunctionCache) (r : Record) : FunctionCache := c.insert r.id r

def putAll (c : FunctionCache) (rs : List Record) : FunctionCache := rs.foldl put c

def has (c : FunctionCache) (id : String) : Bool := c.contains id

def ids (c : FunctionCache) : List String := c.keys.mergeSort fun a b => !decide (b < a)

end FunctionCache

structure Cache where
  containers : Entries Container FunctionCache
deriving DecidableEq, Repr

namespace Cache

def empty : Cache := ⟨[]⟩

instance : Inhabited Cache := ⟨empty⟩

def functions (c : Cache) (k : Container) : FunctionCache := (c.containers.get? k).getD []

def get? (c : Cache) (k : Container) (id : String) : Option Record := (c.functions k).get? id

def has (c : Cache) (k : Container) (id : String) : Bool := (c.functions k).has id

def size (c : Cache) (k : Container) : Nat := (c.functions k).length

def missing (c : Cache) (k : Container) (rs : List Requirement) : List Requirement :=
  rs.filter fun r => !c.has k r.id

inductive Change where
  | put (k : Container) (r : Record)
  | merge (k : Container) (rs : List Record)
  | forget (k : Container) (id : String)
  | resetContainer (k : Container)
  | reset
deriving DecidableEq, Repr

def update (c : Cache) (k : Container) (f : FunctionCache → FunctionCache) : Cache :=
  ⟨c.containers.insert k (f (c.functions k))⟩

def apply (c : Cache) : Change → Cache
  | .put k r => c.update k (·.put r)
  | .merge k rs => c.update k (·.putAll rs)
  | .forget k id => c.update k (·.erase id)
  | .resetContainer k => ⟨c.containers.erase k⟩
  | .reset => empty

/-- What a change gives back: the record that it takes away by its id. -/
def answer (c : Cache) : Change → Option Record
  | .forget k id => c.get? k id
  | .put .. | .merge .. | .resetContainer _ | .reset => none

end Cache
end DocQuery
