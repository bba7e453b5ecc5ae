import DocQuery.Duration

/-!
# Trying again

A policy says how often a request is tried and how long to wait before the next try. The wait
doubles from one try to the next, six times at most, up to a limit.
-/

namespace DocQuery

structure RetryPolicy where
  maxAttempts : Nat
  baseDelay : Duration
  maxDelay : Duration
deriving DecidableEq, Repr

inductive RetryFailure (ε : Type) where
  /-- The error allows no other try. -/
  | fatal (e : ε)
  /-- The error allows another try, but none is left. -/
  | exhausted (e : ε)
deriving DecidableEq, Repr

def RetryFailure.cause {ε : Type} : RetryFailure ε → ε
  | .fatal e => e
  | .exhausted e => e

namespace RetryPolicy

/-- A policy with at least one try, whose longest wait is not below the first. -/
def make (attempts : Nat) (base limit : Duration) : RetryPolicy :=
  ⟨Nat.max attempts 1, base, max limit base⟩

instance : Inhabited RetryPolicy := ⟨⟨3, .ofMillis 200, .ofMillis 5000⟩⟩

def once : RetryPolicy := make 1 .zero .zero

/-- By what factor the wait has grown when so many tries have failed before. -/
def growth (attempt : Nat) : UInt32 := 1 <<< UInt32.ofNat (min attempt 6)

/-- The wait after the failed try with this number, counted from zero. -/
def backoff (p : RetryPolicy) (attempt : Nat) : Duration :=
  if p.baseDelay = .zero then .zero
  else min (p.baseDelay.timesCapped (growth attempt)) p.maxDelay

section

variable {m : Type → Type} [Monad m] {ε α : Type}

/-- The tries from number `attempt` on, of which `left` may follow a failure. -/
def runAux (p : RetryPolicy) (act : m (Except ε α)) (retryable : ε → m Bool)
    (onRetry : ε → Nat → m Unit) (sleep : Duration → m Unit) :
    (left attempt : Nat) → m (Except (RetryFailure ε) α)
  | 0, _ => do
    match ← act with
    | .ok a => return .ok a
    | .error e => if ← retryable e then return .error (.exhausted e) else return .error (.fatal e)
  | left + 1, attempt => do
    match ← act with
    | .ok a => return .ok a
    | .error e =>
      if ← retryable e then
        onRetry e (attempt + 1)
        sleep (p.backoff attempt)
        runAux p act retryable onRetry sleep left (attempt + 1)
      else return .error (.fatal e)

/-- Acts until there is a result, an error that allows no other try, or no try left. Every error
that is followed by another try is announced with the number of tries so far. -/
def run (p : RetryPolicy) (act : m (Except ε α)) (retryable : ε → m Bool)
    (onRetry : ε → Nat → m Unit) (sleep : Duration → m Unit) : m (Except (RetryFailure ε) α) :=
  runAux p act retryable onRetry sleep (p.maxAttempts - 1) 0

end

end RetryPolicy
end DocQuery
