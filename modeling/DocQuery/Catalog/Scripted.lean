import DocQuery.Catalog.Memory

/-!
# A catalog that follows a script

Before a request reaches the memory, the script decides what comes of it. Outcomes are queued for a
kind of request and an id, or for all ids of a kind; when nothing is queued, the request is served.
-/

namespace DocQuery.Catalog

inductive Kind where
  | list
  | create
  | delete
deriving DecidableEq, Repr

namespace Kind

def name : Kind → String
  | .list => "list"
  | .create => "create"
  | .delete => "delete"

def ofName? : String → Option Kind
  | "list" => some .list
  | "create" => some .create
  | "delete" => some .delete
  | _ => none

end Kind

namespace Request

def kind : Request → Kind
  | .list _ => .list
  | .create .. => .create
  | .delete .. => .delete

def container : Request → Container
  | .list c => c
  | .create c _ => c
  | .delete c _ => c

/-- The id that a request is about; a listing is about none. -/
def id : Request → String
  | .list _ => ""
  | .create _ f => f.id
  | .delete _ id => id

end Request

inductive Outcome where
  | ok
  | transport
  | conflict
  | notFound
  | rejected
  | unsupported
  /-- A listing that shows nothing. -/
  | stale
  /-- A create that another client was faster at. -/
  | race
  /-- A request whose answer is lost. -/
  | lost
  /-- A create that is answered under another id. -/
  | rename
  | other (name : String)
deriving DecidableEq, Repr

namespace Outcome

def name : Outcome → String
  | .ok => "ok"
  | .transport => "transport"
  | .conflict => "conflict"
  | .notFound => "not_found"
  | .rejected => "rejected"
  | .unsupported => "unsupported"
  | .stale => "stale"
  | .race => "race"
  | .lost => "lost"
  | .rename => "rename"
  | .other name => name

def ofName : String → Outcome
  | "ok" => .ok
  | "transport" => .transport
  | "conflict" => .conflict
  | "not_found" => .notFound
  | "rejected" => .rejected
  | "unsupported" => .unsupported
  | "stale" => .stale
  | "race" => .race
  | "lost" => .lost
  | "rename" => .rename
  | name => .other name

/-- The error of an outcome that fails without reaching the memory. -/
def failure (o : Outcome) (c : Container) (id : String) : Error :=
  match o with
  | .conflict => .conflict c id
  | .notFound => .notFound ("scripted " ++ id)
  | .rejected => .rejected ("scripted " ++ id)
  | .unsupported => .unsupportedContainer c
  | _ => .transport "connection reset"

end Outcome

structure TraceEntry where
  time : Nat
  kind : Kind
  id : String
  outcome : Outcome
deriving DecidableEq, Repr

namespace TraceEntry

/-- The order of reports: by time, then by the names of the kind, the id and the outcome. -/
def le (a b : TraceEntry) : Bool :=
  let key (e : TraceEntry) := (e.kind.name, e.id, e.outcome.name)
  if a.time ≠ b.time then a.time < b.time
  else if (key a).1 ≠ (key b).1 then (key a).1 < (key b).1
  else if (key a).2.1 ≠ (key b).2.1 then (key a).2.1 < (key b).2.1
  else !decide ((key b).2.2 < (key a).2.2)

end TraceEntry

structure Scripted where
  inner : Memory
  queues : Entries (Kind × String) (List Outcome) := []
  trace : List TraceEntry := []

namespace Scripted

/-- The id whose queue serves every id. -/
def anyId : String := "*"

def enqueue (s : Scripted) (kind : Kind) (id : String) (outcomes : List Outcome) : Scripted :=
  let queue := (s.queues.get? (kind, id)).getD []
  { s with queues := s.queues.insert (kind, id) (queue ++ outcomes) }

def pop? (s : Scripted) (kind : Kind) (id : String) : Option (Outcome × Scripted) :=
  match s.queues.get? (kind, id) with
  | some (o :: rest) => some (o, { s with queues := s.queues.insert (kind, id) rest })
  | _ => none

def next (s : Scripted) (kind : Kind) (id : String) : Outcome × Scripted :=
  ((s.pop? kind id).or (s.pop? kind anyId)).getD (.ok, s)

def pending (s : Scripted) : Nat := s.queues.foldl (fun n queue => n + queue.2.length) 0

/-- Passes what the memory makes of a request on, with the script around it. -/
def lift {r : Request} (s : Scripted) (e : Effect Memory (Receipt Memory r)) :
    Effect Scripted (Receipt Scripted r) :=
  let receipt : Receipt Scripted r := match e.value with
    | .now reply => .now reply
    | .later delay finish =>
      .later delay fun s =>
        let e := finish s.inner
        ⟨e.value, { s with inner := e.state }, e.events⟩
  ⟨receipt, { s with inner := e.state }, e.events⟩

def forward (s : Scripted) (r : Request) (f : Reply r → Reply r) :
    Effect Scripted (Receipt Scripted r) :=
  let e := s.lift (s.inner.submit r)
  ⟨e.value.map f, e.state, e.events⟩

def fail (s : Scripted) (r : Request) (o : Outcome) : Effect Scripted (Receipt Scripted r) :=
  ⟨.now (.error (o.failure r.container r.id)), s, []⟩

/-- An answer that never arrives. -/
def lose {r : Request} (reply : Reply r) : Reply r := do
  let _ ← reply
  .error (Outcome.lost.failure r.container r.id)

def perform (s : Scripted) (o : Outcome) : (r : Request) → Effect Scripted (Receipt Scripted r)
  | .list c =>
    match o with
    | .ok => s.forward (.list c) fun reply => reply
    | .stale => s.forward (.list c) fun reply => reply.map fun _ => []
    | o => s.fail (.list c) o
  | .create c f =>
    match o with
    | .ok => s.forward (.create c f) fun reply => reply
    | .race =>
      match s.inner.register c f with
      | .ok (_, m) => { s with inner := m }.forward (.create c f) fun reply => reply
      | .error e => ⟨.now (.error e), s, []⟩
    | .lost => s.forward (.create c f) lose
    | .rename =>
      s.forward (.create c f) fun reply =>
        reply.map fun (r : Record) => { r with id := r.id ++ "2" }
    | o => s.fail (.create c f) o
  | .delete c id =>
    match o with
    | .ok => s.forward (.delete c id) fun reply => reply
    | .lost => s.forward (.delete c id) lose
    | o => s.fail (.delete c id) o

def submit (now : Nat) (r : Request) (s : Scripted) : Effect Scripted (Receipt Scripted r) :=
  let (o, s) := s.next r.kind r.id
  let s := { s with trace := ⟨now, r.kind, r.id, o⟩ :: s.trace }
  s.perform o r

def catalog : Catalog Scripted where
  name := Memory.catalog.name
  submit := submit

end Scripted
end DocQuery.Catalog
