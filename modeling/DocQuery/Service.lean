import DocQuery.Provision.Clock
import DocQuery.Query.Compiler

/-!
# Preparing queries

A service compiles a filter and provides the functions that its query calls, so that the text can
run in a container. A query that calls no function is ready as soon as it is compiled.
-/

namespace DocQuery

open Provision (Flow Job Place Provisioner Timed World)
open Query (CompileError Compiled Compiler)

def Query.Compiler.events (c : Compiler) (f : Filter) : List Event :=
  let raw := match f with
    | .raw predicate => [Event.rawPredicate predicate]
    | .document _ => []
  match c.compile f with
  | .ok q => raw ++ [.compiled q.text q.requirements.length]
  | .error _ => raw

/-- A compiler and a provisioner, and where the provisioner keeps what it knows. -/
structure Service where
  compiler : Compiler
  provisioner : Provisioner
  place : Place
deriving DecidableEq, Repr

namespace Service

inductive Error where
  | filter (e : Filter.Error)
  | compile (e : CompileError)
  | provision (e : Provision.Error)
deriving DecidableEq, Repr

def Error.message : Error → String
  | .filter e => e.message
  | .compile e => e.message
  | .provision e => e.message

/-- A filter, or JSON that has to become one. -/
inductive Source where
  | filter (f : Filter)
  | json (j : Json)

def Source.toFilter : Source → Except Filter.Error Filter
  | .filter f => .ok f
  | .json j => Filter.ofJson j

inductive Call where
  | compile (q : Source)
  | prepare (q : Source) (k : Container)
  | resolve (rs : List Requirement) (k : Container)
  | remove (id : String) (k : Container)

/-- The container of a call; a compilation has none and never uses it. -/
def Call.container : Call → Container
  | .compile _ => .database ""
  | .prepare _ k => k
  | .resolve _ k => k
  | .remove _ k => k

inductive Answer where
  | compiled (q : Compiled)
  | text (s : String)
  | done
deriving DecidableEq, Repr

def compiled (s : Service) (q : Source) : Except Error Compiled := do
  let f ← q.toFilter.mapError .filter
  (s.compiler.compile f).mapError .compile

def events (s : Service) (q : Source) : List Event :=
  match q.toFilter with
  | .ok f => s.compiler.events f
  | .error _ => []

def reportAll : List Event → Flow Unit
  | [] => pure ()
  | e :: es => do
    Flow.report e
    reportAll es

/-- The flow that begins a call. What the call gives besides is found by `answer`. -/
def flow (s : Service) : Call → Flow Provision.Outcome
  | .compile q => do
    reportAll (s.events q)
    return .ok []
  | .prepare q k => do
    reportAll (s.events q)
    match s.compiled q with
    | .ok c => if c.isPlain then return .ok [] else s.provisioner.survey k c.requirements
    | .error _ => return .ok []
  | .resolve rs k => s.provisioner.survey k rs
  | .remove id k => s.provisioner.remove k id

def answer (s : Service) (call : Call) (result : Except Provision.Error Unit) :
    Except Error Answer :=
  match call with
  | .compile q => do return .compiled (← s.compiled q)
  | .prepare q _ => do
    let c ← s.compiled q
    let _ ← result.mapError .provision
    return .text c.text
  | .resolve _ _ => do
    let _ ← result.mapError .provision
    return .done
  | .remove _ _ => do
    let _ ← result.mapError .provision
    return .done

section

variable {σ : Type}

def job (s : Service) (call : Call) : Job σ :=
  .start s.provisioner call.container s.place (s.flow call)

/-- Runs calls side by side from a time on, for at most `fuel` steps. -/
def runAll (catalog : Catalog σ) (fuel : Nat) (calls : List (Service × Call)) (w : World σ)
    (now : Nat) : List (Except Error Answer) × Timed σ :=
  let jobs := calls.map fun (s, call) => s.job call
  let t := (Timed.start w now jobs).run catalog fuel
  ((calls.zip t.pool.jobs).map fun ((s, call), job) => s.answer call job.result, t)

/-- How many functions a call may have to provide. -/
def demand (s : Service) : Call → Nat
  | .compile _ => 0
  | .prepare q _ =>
    match s.compiled q with
    | .ok c => c.requirements.length
    | .error _ => 0
  | .resolve rs _ => rs.length
  | .remove _ _ => 0

end

end Service
end DocQuery
