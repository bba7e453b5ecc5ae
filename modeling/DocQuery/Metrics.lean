/-!
# Counters of provisioning
-/

namespace DocQuery

inductive Counter where
  /-- Resolves that the cache answered alone. -/
  | fastPathHits
  | listCalls
  | createCalls
  | functionsCreated
  | conflictsRecovered
  /-- Answers after which a request may be tried again. -/
  | transientFailures
  | failures
deriving DecidableEq, Repr

/-- The counters of one provisioner. They begin again at zero after `2 ^ 64 - 1`. -/
structure Metrics where
  fastPathHits : UInt64 := 0
  listCalls : UInt64 := 0
  createCalls : UInt64 := 0
  functionsCreated : UInt64 := 0
  conflictsRecovered : UInt64 := 0
  transientFailures : UInt64 := 0
  failures : UInt64 := 0
deriving DecidableEq, Repr

namespace Metrics

def bump (m : Metrics) : Counter → Metrics
  | .fastPathHits => { m with fastPathHits := m.fastPathHits + 1 }
  | .listCalls => { m with listCalls := m.listCalls + 1 }
  | .createCalls => { m with createCalls := m.createCalls + 1 }
  | .functionsCreated => { m with functionsCreated := m.functionsCreated + 1 }
  | .conflictsRecovered => { m with conflictsRecovered := m.conflictsRecovered + 1 }
  | .transientFailures => { m with transientFailures := m.transientFailures + 1 }
  | .failures => { m with failures := m.failures + 1 }

def toList (m : Metrics) : List UInt64 :=
  [m.fastPathHits, m.listCalls, m.createCalls, m.functionsCreated, m.conflictsRecovered,
    m.transientFailures, m.failures]

end Metrics
end DocQuery
