import DocQuery.Provision.Error
import DocQuery.Provision.Flow
import DocQuery.Settings.Basic

/-!
# Providing the functions of a query

A resolve looks into the cache first. If something is unknown it lists the container once, and then
creates what is still missing, several functions at a time. Creating a function is done under a lock
on its container and id, so that resolves that run at the same time create it once. A request
without a definite answer is tried again as the retry policy allows. If a function turns out to
exist when it is created, the container is listed again.

A resolve falls into parts that can run at the same time: `survey` finds out what is missing, and
`ensure` provides one function. Each part ends with the requirements that are left for further
parts.
-/

namespace DocQuery.Provision

open Catalog (Request Reply)

/-- How a part of an operation ends: with the requirements that remain to be provided, or with an
error. -/
abbrev Outcome := Except Error (List Requirement)

structure Provisioner where
  settings : Settings
deriving DecidableEq, Repr

instance : Inhabited Provisioner := ⟨⟨default⟩⟩

namespace Provisioner

/-- Whether an error allows another try. Such errors are counted. -/
def classify (e : Catalog.Error) : Flow Bool := do
  if e.isTransient then
    Flow.count .transientFailures
    return true
  else return false

/-- Sends a request until it has a definite answer or no try is left. -/
def persist (p : Provisioner) (operation : Operation) (counter : Option Counter) (r : Request) :
    Flow (Reply r) := do
  let attempt : Flow (Reply r) := do
    match counter with
    | some c => Flow.count c
    | none => pure ()
    Flow.request r
  let result ← p.settings.retryPolicy.run attempt classify
    (fun e n => Flow.report (.retrying operation n e)) Flow.sleep
  return result.mapError RetryFailure.cause

/-- Lists a container and remembers every function in it. -/
def refresh (p : Provisioner) (k : Container) : Flow (Except Error Unit) := do
  match ← p.persist .list (some .listCalls) (.list k) with
  | .error e =>
    Flow.count .failures
    return .error (.list k e)
  | .ok records =>
    let records : List Record := records
    let name ← Flow.catalogName
    Flow.report (.listed k records.length name)
    Flow.changeCache (.merge k records)
    return .ok ()

def createFailed (k : Container) (f : Requirement) (e : Catalog.Error) : Flow Outcome := do
  Flow.report (.createFailed k f.id e)
  Flow.count .failures
  return .error (.create k f.id e)

def ensureLocked (p : Provisioner) (k : Container) (f : Requirement) : Flow Outcome := do
  if (← Flow.readCache).has k f.id then
    Flow.report (.createdElsewhere k f.id)
    return .ok []
  match ← p.persist .create (some .createCalls) (.create k f) with
  | .ok record =>
    let record : Record := record
    Flow.report (.created k record.id record.handle)
    Flow.count .functionsCreated
    Flow.changeCache (.put k record)
    return .ok []
  | .error e =>
    if e.isConflict && p.settings.recoverConflicts then
      Flow.report (.alreadyExists k f.id)
      match ← p.refresh k with
      | .error e => return .error e
      | .ok () =>
        if (← Flow.readCache).has k f.id then
          Flow.count .conflictsRecovered
          return .ok []
        else createFailed k f e
    else createFailed k f e

def ensure (p : Provisioner) (k : Container) (f : Requirement) : Flow Outcome := do
  let l ← Flow.fetchLock (k, f.id)
  Flow.acquire l
  let result ← p.ensureLocked k f
  Flow.release l
  Flow.discard (k, f.id) l
  return result

/-- Finds out which of the required functions have to be created. -/
def survey (p : Provisioner) (k : Container) (rs : List Requirement) : Flow Outcome := do
  let unknown := (← Flow.readCache).missing k (Requirement.dedup rs)
  if unknown.isEmpty then
    Flow.count .fastPathHits
    Flow.report (.allCached k rs.length)
    return .ok []
  if !k.hostsFunctions then
    Flow.count .failures
    return .error (.unsupportedContainer k (unknown.map (·.id)))
  match ← p.refresh k with
  | .error e => return .error e
  | .ok () =>
    let missing := (← Flow.readCache).missing k unknown
    if missing.isEmpty then Flow.report (.found k)
    else Flow.report (.creating k (missing.map (·.id)))
    return .ok missing

/-- Deletes a function and forgets it. A function that does not exist counts as deleted. -/
def remove (p : Provisioner) (k : Container) (id : String) : Flow Outcome := do
  let forgotten : Flow Outcome := do
    Flow.changeCache (.forget k id)
    Flow.report (.removed k id)
    return .ok []
  match ← p.persist .delete none (.delete k id) with
  | .ok _ => forgotten
  | .error (.notFound _) => forgotten
  | .error e =>
    Flow.count .failures
    return .error (.delete k id e)

end Provisioner
end DocQuery.Provision
