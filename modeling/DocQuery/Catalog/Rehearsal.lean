import DocQuery.Catalog.Scripted
import DocQuery.Retry

/-!
# Rehearsing a retry policy

Requests whose outcomes are laid down beforehand, on a clock of their own.
-/

namespace DocQuery.Catalog

/-- How a rehearsal stands. The newest calls and retries stand in front. -/
structure Rehearsal where
  outcomes : List Outcome
  now : Nat := 0
  callsAt : List Nat := []
  retried : List (Nat × Error) := []

namespace Rehearsal

/-- One request; its result is its number, counted from zero. -/
def attempt (k : Container) (id : String) : StateM Rehearsal (Except Error Nat) := do
  let s ← get
  set { s with outcomes := s.outcomes.tail, callsAt := s.now :: s.callsAt }
  match s.outcomes.head? with
  | none => return .ok s.callsAt.length
  | some .ok => return .ok s.callsAt.length
  | some o => return .error (o.failure k id)

def run (p : RetryPolicy) (k : Container) (id : String) (outcomes : List Outcome) :
    Except (RetryFailure Error) Nat × Rehearsal :=
  let run : StateM Rehearsal (Except (RetryFailure Error) Nat) :=
    p.run (attempt k id) (fun e => pure e.isTransient)
      (fun e n => modify fun s => { s with retried := (n, e) :: s.retried })
      (fun d => modify fun s => { s with now := s.now + d.millis })
  StateT.run run { outcomes }

end Rehearsal
end DocQuery.Catalog
