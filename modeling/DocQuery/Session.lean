import DocQuery.Catalog.Scripted
import DocQuery.Service

/-!
# Sessions

Services over one scripted catalog and one clock. Calls can run side by side; between them the
script, the memory behind it and the caches can be changed.
-/

namespace DocQuery

open Catalog (Kind Memory Scripted TraceEntry)
open Provision (World)
open Query (Compiler)

/-- Services, what they act on, and the time in milliseconds. -/
structure Session where
  services : List Service
  world : World Scripted
  now : Nat := 0

namespace Session

/-- A session with `count` services that differ only in where they keep what they know. With a
shared cache they know the same functions. -/
def make (memory : Memory) (compiler : Compiler) (settings : Settings) (count : Nat)
    (sharedCache : Bool) : Session where
  services := (List.range count).map fun i =>
    ⟨compiler, ⟨settings⟩, ⟨i, if sharedCache then 0 else i⟩⟩
  world := { catalog := { inner := memory } }

/-- The links of a session for trying things out: two collections and their database. -/
def usersLink : String := "dbs/b5NCAA==/colls/b5NCAIu9NwA=/"

def ordersLink : String := "dbs/b5NCAA==/colls/b5NCAJu7NwB=/"

def databaseLink : String := "dbs/b5NCAA==/"

def sample : Session := make (.ofLinks [usersLink, ordersLink] 0) default default 1 false

/-- More steps than calls can take: a thread goes on at most four times and twice more for every
outcome of the script, and each time may need a jump of the clock and the end of a turn. -/
def enoughSteps (s : Session) (calls : List (Service × Service.Call)) : Nat :=
  let threads := calls.foldl (fun n (service, call) => n + service.demand call + 1) 0
  20 * (threads + s.world.catalog.pending + 1)

def perform (s : Session) (calls : List (Service × Service.Call)) :
    List (Except Service.Error Service.Answer) × Session :=
  let (answers, t) :=
    Service.runAll Scripted.catalog (s.enoughSteps calls) calls s.world s.now
  (answers, { s with world := t.pool.world, now := t.now })

def setMemory (s : Session) (m : Memory) : Session :=
  { s with world := { s.world with catalog := { s.world.catalog with inner := m } } }

def memory (s : Session) : Memory := s.world.catalog.inner

def enqueue (s : Session) (kind : Kind) (id : String) (outcomes : List Catalog.Outcome) : Session :=
  { s with world := { s.world with catalog := s.world.catalog.enqueue kind id outcomes } }

/-- Registers a function in the memory, as another client would. -/
def seed (s : Session) (k : Container) (f : Requirement) : Except Catalog.Error Record × Session :=
  let (result, m) := s.memory.seed k f
  (result, s.setMemory m)

/-- Sends a request to the memory past the script. -/
def ask (s : Session) (r : Catalog.Request) : Catalog.Reply r × Session :=
  let e := Memory.catalog.ask s.now r s.memory
  let s := s.setMemory e.state
  (e.value.1,
    { s with
      world := { s.world with log := e.events.reverse ++ s.world.log }
      now := s.now + e.value.2 })

def cache (s : Session) (service : Service) : Cache := s.world.caches service.place.cache

def changeCache (s : Session) (service : Service) (c : Cache.Change) : Session :=
  { s with world := { s.world with toData := s.world.changeCache service.place.cache c } }

def metrics (s : Session) (service : Service) : Metrics := s.world.metrics service.place.site

/-- What the script saw since it was asked last, in the order of reports. -/
def takeTrace (s : Session) : List TraceEntry × Session :=
  (s.world.catalog.trace.mergeSort TraceEntry.le,
    { s with world := { s.world with catalog := { s.world.catalog with trace := [] } } })

def events (s : Session) : List Event := s.world.log.reverse

end Session
end DocQuery
