import DocQuery.Json.Fields
import DocQuery.Retry

/-!
# Settings of provisioning
-/

namespace DocQuery

structure Settings where
  /-- How many functions one resolve creates at a time. -/
  createConcurrency : UInt64
  /-- Whether a function that turns out to exist counts as provided. -/
  recoverConflicts : Bool
  retryAttempts : UInt64
  retryBaseDelay : UInt64
  retryMaxDelay : UInt64
deriving DecidableEq, Repr

namespace Settings

instance : Inhabited Settings where
  default :=
    { createConcurrency := 4
      recoverConflicts := true
      retryAttempts := 3
      retryBaseDelay := 200
      retryMaxDelay := 5000 }

def retryPolicy (s : Settings) : RetryPolicy :=
  .make s.retryAttempts.toNat (.ofMillis s.retryBaseDelay) (.ofMillis s.retryMaxDelay)

def withRetry (s : Settings) (p : RetryPolicy) : Settings :=
  { s with
    retryAttempts := .ofNat p.maxAttempts
    retryBaseDelay := .ofNat p.baseDelay.millis
    retryMaxDelay := .ofNat p.maxDelay.millis }

/-- How many creates one resolve keeps going at once. -/
def window (s : Settings) : Nat := max s.createConcurrency.toNat 1

def fieldNames : List String :=
  ["create_concurrency", "recover_conflicts", "retry_attempts", "retry_base_delay_ms",
    "retry_max_delay_ms"]

def toJson (s : Settings) : Json :=
  .obj (fieldNames.zip
    [.ofNat s.createConcurrency.toNat, .bool s.recoverConflicts, .ofNat s.retryAttempts.toNat,
      .ofNat s.retryBaseDelay.toNat, .ofNat s.retryMaxDelay.toNat])

/-- Settings from JSON; a field that is left out has its default. -/
def ofJson? (j : Json) : Option Settings := do
  let d : Settings := default
  match ← j.optionalFields? fieldNames with
  | [concurrency, recover, attempts, base, max] =>
    return {
      createConcurrency := ← Json.readField? Json.uint64? d.createConcurrency concurrency
      recoverConflicts := ← Json.readField? Json.bool? d.recoverConflicts recover
      retryAttempts := ← Json.readField? Json.uint64? d.retryAttempts attempts
      retryBaseDelay := ← Json.readField? Json.uint64? d.retryBaseDelay base
      retryMaxDelay := ← Json.readField? Json.uint64? d.retryMaxDelay max }
  | _ => none

end Settings
end DocQuery
