/-!
# Regular expressions over conditions

Steps over one character, conditions on a position, and the ways to combine them. Which alternative
is preferred and where groups begin is not kept, because only the existence of a match is asked for.
-/

namespace DocQuery.Pattern

/-- Regular expressions whose steps and conditions are described by `σ` and `κ`. -/
inductive Regex (σ κ : Type) where
  | empty
  | step (s : σ)
  | look (l : κ)
  | seq (a b : Regex σ κ)
  | alt (a b : Regex σ κ)
  /-- At least `least` times and at most `most` times, or without an upper limit. -/
  | repetition (least : Nat) (most : Option Nat) (a : Regex σ κ)
deriving Repr

namespace Regex

variable {σ κ σ' κ' : Type}

def map (f : σ → σ') (g : κ → κ') : Regex σ κ → Regex σ' κ'
  | .empty => .empty
  | .step s => .step (f s)
  | .look l => .look (g l)
  | .seq a b => .seq (a.map f g) (b.map f g)
  | .alt a b => .alt (a.map f g) (b.map f g)
  | .repetition least most a => .repetition least most (a.map f g)

end Regex
end DocQuery.Pattern
