import DocQuery.Catalog.Error
import DocQuery.Event
import DocQuery.Function.Requirement

/-!
# Catalogs

A catalog holds the functions of each container and answers requests about them. It acts on a
request when the request arrives, and may act again when the answer leaves, some time later.
-/

namespace DocQuery

namespace Catalog

inductive Request where
  | list (container : Container)
  | create (container : Container) (function : Requirement)
  | delete (container : Container) (id : String)
deriving DecidableEq, Repr

def Request.Result : Request → Type
  | .list _ => List Record
  | .create .. => Record
  | .delete .. => Unit

abbrev Reply (r : Request) := Except Error r.Result

/-- A value, the state that was left, and what was reported. -/
structure Effect (σ α : Type) where
  value : α
  state : σ
  events : List Event

/-- What becomes of a request on arrival: an answer at once, or one that is made later. -/
inductive Receipt (σ : Type) (r : Request) where
  | now (reply : Reply r)
  | later (delay : Nat) (finish : σ → Effect σ (Reply r))

def Receipt.map {σ : Type} {r : Request} (f : Reply r → Reply r) : Receipt σ r → Receipt σ r
  | .now reply => .now (f reply)
  | .later delay finish =>
    .later delay fun s =>
      let e := finish s
      ⟨f e.value, e.state, e.events⟩

end Catalog

structure Catalog (σ : Type) where
  name : String
  /-- Takes a request at a time in milliseconds. -/
  submit : (now : Nat) → (r : Catalog.Request) → σ → Catalog.Effect σ (Catalog.Receipt σ r)

namespace Catalog

/-- Sends a request and waits for the answer, with the time that it took. -/
def ask {σ : Type} (catalog : Catalog σ) (now : Nat) (r : Request) (s : σ) :
    Effect σ (Reply r × Nat) :=
  let arrival := catalog.submit now r s
  match arrival.value with
  | .now reply => ⟨(reply, 0), arrival.state, arrival.events⟩
  | .later ms finish =>
    let departure := finish arrival.state
    ⟨(departure.value, ms), departure.state, arrival.events ++ departure.events⟩

end Catalog
end DocQuery
