import DocQuery.Catalog.Basic
import DocQuery.Entries

/-!
# A catalog in memory

Collections have to exist before functions can be registered in them, ids are unique within a
collection, and databases hold no functions. Requests are counted, failed ones too.
-/

namespace DocQuery.Catalog

/-- How many requests of each kind have been taken. The numbers begin again at zero after
`2 ^ 64 - 1`. -/
structure Calls where
  lists : UInt64 := 0
  creates : UInt64 := 0
  deletes : UInt64 := 0
deriving DecidableEq, Repr

namespace Calls

def count (c : Calls) : Request → Calls
  | .list _ => { c with lists := c.lists + 1 }
  | .create .. => { c with creates := c.creates + 1 }
  | .delete .. => { c with deletes := c.deletes + 1 }

end Calls

/-- Collections by link, each with its functions in the order of their creation. -/
structure Memory where
  collections : Entries String (List Record)
  calls : Calls := {}
  /-- How long a request takes, in milliseconds. -/
  latency : Nat := 0
deriving DecidableEq, Repr

namespace Memory

def ofLinks (links : List String) (latency : Nat) : Memory :=
  { collections := Entries.ofList (links.map (·, [])), latency }

def addCollection (m : Memory) (link : String) : Memory :=
  if m.collections.contains link then m
  else { m with collections := m.collections.insert link [] }

def functions (m : Memory) (link : String) : List Record := (m.collections.get? link).getD []

/-- The functions of a container that has to exist and to be a collection. -/
def hosted (m : Memory) (c : Container) : Except Error (List Record) :=
  match c with
  | .database _ => .error (.unsupportedContainer c)
  | .collection link =>
    match m.collections.get? link with
    | some rs => .ok rs
    | none => .error (.notFound c.display)

/-- The handle of a function: its id below the link, whose closing slashes do not count. -/
def handle (link id : String) : String :=
  String.ofList ((link.toList.reverse.dropWhile (· = '/')).reverse) ++ "/udfs/" ++ id ++ "/"

def recordOf (link : String) (f : Requirement) : Record := ⟨f.id, f.body, handle link f.id⟩

def setFunctions (m : Memory) (c : Container) (rs : List Record) : Memory :=
  { m with collections := m.collections.insert c.link rs }

def register (m : Memory) (c : Container) (f : Requirement) : Except Error (Record × Memory) := do
  let rs ← m.hosted c
  if rs.any (·.id = f.id) then .error (.conflict c f.id)
  else
    let r := recordOf c.link f
    return (r, m.setFunctions c (rs ++ [r]))

/-- Registers a function without a request, as if another client had done it. -/
def seed (m : Memory) (c : Container) (f : Requirement) : Except Error Record × Memory :=
  match m.register c f with
  | .ok (r, m') => (.ok r, m')
  | .error e => (.error e, m)

def unregister (m : Memory) (c : Container) (id : String) : Except Error Memory := do
  let rs ← m.hosted c
  if rs.any (·.id = id) then return m.setFunctions c (rs.filter (·.id ≠ id))
  else .error (.notFound ("function `" ++ id ++ "` in " ++ c.display))

/-- What a request does, without being counted. -/
def serve (m : Memory) : (r : Request) → Effect Memory (Reply r)
  | .list c =>
    match m.hosted c with
    | .ok rs => ⟨.ok rs, m, [.served c.link rs.length]⟩
    | .error e => ⟨.error e, m, []⟩
  | .create c f =>
    match m.register c f with
    | .ok (r, m') => ⟨.ok r, m', [.registered c.link r.id]⟩
    | .error e => ⟨.error e, m, []⟩
  | .delete c id =>
    match m.unregister c id with
    | .ok m' => ⟨.ok (), m', []⟩
    | .error e => ⟨.error e, m, []⟩

/-- Counts a request, and serves it at once or when its time has passed. -/
def submit (m : Memory) (r : Request) : Effect Memory (Receipt Memory r) :=
  let m := { m with calls := m.calls.count r }
  if m.latency = 0 then
    let e := m.serve r
    ⟨.now e.value, e.state, e.events⟩
  else ⟨.later m.latency fun s => s.serve r, m, []⟩

def catalog : Catalog Memory where
  name := "memory"
  submit := fun _ r m => m.submit r

end Memory
end DocQuery.Catalog
