import DocQuery.Proofs.Cache
import DocQuery.Provision.Provisioner

/-! # The commands of a flow

Some of what a flow does can be told from its commands alone, whatever they are answered. A
provisioner that works for a container changes the cache only by storing records of that container,
and it deals with locks only at the two ends of providing a function.
-/

namespace DocQuery.Provision

variable {α β : Type}

namespace Command

def locks : Command → Bool
  | .fetchLock _ => true
  | .acquire _ => true
  | .release _ => true
  | .discard _ _ => true
  | _ => false

/-- A command that leaves locks alone, and changes the cache at most by storing records of a
container. -/
def Stores (k : Container) : Command → Prop
  | .changeCache c => c.Stores k
  | c => c.locks = false

def Keeps (k : Container) (c : Command) : Prop := c.locks = true ∨ c.Stores k

theorem Stores.locks_eq {k : Container} {c : Command} (h : c.Stores k) : c.locks = false := by
  cases c with
  | changeCache x => rfl
  | _ => exact h

end Command

namespace Flow

/-- A flow all of whose commands are of a kind, and that ends with a value of a kind. -/
def Every (P : Command → Prop) (Q : α → Prop) : Flow α → Prop
  | .done a => Q a
  | .step c next => P c ∧ ∀ a, Every P Q (next a)

namespace Every

variable {P P' : Command → Prop} {Q Q' : α → Prop} {p : Flow α}

theorem bind {R : β → Prop} {f : α → Flow β} (h : p.Every P Q)
    (hf : ∀ a, Q a → (f a).Every P R) : (p.bind f).Every P R := by
  induction p with
  | done a => exact hf a h
  | step c next ih => exact ⟨h.1, fun a => ih a (h.2 a)⟩

theorem mono (h : p.Every P Q) (hP : ∀ c, P c → P' c) (hQ : ∀ a, Q a → Q' a) :
    p.Every P' Q' := by
  induction p with
  | done a => exact hQ a h
  | step c next ih => exact ⟨hP c h.1, fun a => ih a (h.2 a)⟩

end Every

end Flow

namespace Provisioner

theorem runAux_every {ε γ : Type} {P : Command → Prop} (policy : RetryPolicy)
    {act : Flow (Except ε γ)} {retryable : ε → Flow Bool} {onRetry : ε → Nat → Flow Unit}
    (hact : act.Every P fun _ => True) (hretryable : ∀ e, (retryable e).Every P fun _ => True)
    (honRetry : ∀ e n, (onRetry e n).Every P fun _ => True) (hsleep : ∀ ms, P (.sleep ms))
    (left attempt : Nat) :
    (policy.runAux act retryable onRetry Flow.sleep left attempt).Every P fun _ => True := by
  induction left generalizing attempt with
  | zero =>
      refine hact.bind fun r _ => ?_
      cases r with
      | ok a => trivial
      | error e =>
          refine (hretryable e).bind fun b _ => ?_
          cases b <;> trivial
  | succ left ih =>
      refine hact.bind fun r _ => ?_
      cases r with
      | ok a => trivial
      | error e =>
          refine (hretryable e).bind fun b _ => ?_
          cases b with
          | false => trivial
          | true =>
              exact (honRetry e (attempt + 1)).bind fun _ _ => ⟨hsleep _, fun _ => ih (attempt + 1)⟩

theorem persist_stores (p : Provisioner) (operation : Operation) (counter : Option Counter)
    (r : Catalog.Request) (k : Container) :
    (p.persist operation counter r).Every (Command.Stores k) fun _ => True := by
  refine (runAux_every _ ?_ (fun e => ?_) (fun e n => ?_) (fun _ => rfl) _ 0).bind
    fun _ _ => trivial
  · cases counter with
    | none => exact ⟨rfl, fun _ => trivial⟩
    | some c => exact ⟨rfl, fun _ => ⟨rfl, fun _ => trivial⟩⟩
  · simp only [classify]
    split
    · exact ⟨rfl, fun _ => trivial⟩
    · trivial
  · exact ⟨rfl, fun _ => trivial⟩

theorem refresh_stores (p : Provisioner) (k : Container) :
    (p.refresh k).Every (Command.Stores k) fun _ => True := by
  refine (p.persist_stores _ _ _ k).bind fun r _ => ?_
  cases r with
  | error e => exact ⟨rfl, fun _ => trivial⟩
  | ok records => exact ⟨rfl, fun _ => ⟨rfl, fun _ => ⟨rfl, fun _ => trivial⟩⟩⟩

/-- Providing a function leaves nothing for others to do. -/
theorem ensureLocked_stores (p : Provisioner) (k : Container) (f : Requirement) :
    (p.ensureLocked k f).Every (Command.Stores k) fun o => o.toOption.getD [] = [] := by
  have hfailed : ∀ e, (createFailed k f e).Every (Command.Stores k) fun o =>
      o.toOption.getD [] = [] := fun _ => ⟨rfl, fun _ => ⟨rfl, fun _ => rfl⟩⟩
  have hread : Flow.readCache.Every (Command.Stores k) fun _ => True := ⟨rfl, fun _ => trivial⟩
  refine hread.bind fun cache _ => ?_
  split
  · exact ⟨rfl, fun _ => rfl⟩
  · refine (p.persist_stores _ _ _ k).bind fun r _ => ?_
    cases r with
    | ok record => exact ⟨rfl, fun _ => ⟨rfl, fun _ => ⟨rfl, fun _ => rfl⟩⟩⟩
    | error e =>
        dsimp only
        split
        · refine ⟨rfl, fun _ => (p.refresh_stores k).bind fun r _ => ?_⟩
          cases r with
          | error e => exact rfl
          | ok _ =>
              refine hread.bind fun cache _ => ?_
              split
              · exact ⟨rfl, fun _ => rfl⟩
              · exact hfailed e
        · exact hfailed e

theorem ensure_keeps (p : Provisioner) (k : Container) (f : Requirement) :
    (p.ensure k f).Every (Command.Keeps k) fun _ => True := by
  have hlock : ∀ {c : Command}, c.locks = true → c.Keeps k := Or.inl
  refine ⟨hlock rfl, fun l => ⟨hlock rfl, fun _ => ?_⟩⟩
  refine ((p.ensureLocked_stores k f).mono (fun _ => Or.inr) fun _ h => h).bind fun o _ => ?_
  exact ⟨hlock rfl, fun _ => ⟨hlock rfl, fun _ => trivial⟩⟩

theorem survey_stores (p : Provisioner) (k : Container) (rs : List Requirement) :
    (p.survey k rs).Every (Command.Stores k) fun _ => True := by
  have hread : Flow.readCache.Every (Command.Stores k) fun _ => True := ⟨rfl, fun _ => trivial⟩
  refine hread.bind fun cache _ => ?_
  dsimp only
  split
  · exact ⟨rfl, fun _ => ⟨rfl, fun _ => trivial⟩⟩
  · split
    · exact ⟨rfl, fun _ => trivial⟩
    · refine (p.refresh_stores k).bind fun r _ => ?_
      cases r with
      | error e => trivial
      | ok _ =>
          refine hread.bind fun cache _ => ?_
          split
          · exact ⟨rfl, fun _ => trivial⟩
          · exact ⟨rfl, fun _ => trivial⟩

end Provisioner
end DocQuery.Provision
