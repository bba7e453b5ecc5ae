import Std.Data.TreeMap

/-!
# A memo of limited size

Numbers under keys, in a fixed count of slots. A key goes to the slot that its digest points to, and
whatever stood there before is forgotten.
-/

namespace DocQuery.Pattern

/-- A digest of numbers, each of which is mixed in by exclusive or and multiplication. -/
abbrev Digest := UInt64

namespace Digest

def start : Digest := 14695981039346656037

def mix (d : Digest) (n : Nat) : Digest := (d ^^^ n.toUInt64) * 1099511628211

end Digest

class Digestible (κ : Type) where
  digest : κ → Digest

/-- Numbers under keys, at most one in each of `slots` slots. -/
structure Memo (κ : Type) where
  slots : Nat
  entries : Std.TreeMap Nat (κ × Nat)

namespace Memo

variable {κ : Type} [Digestible κ]

def empty (slots : Nat) : Memo κ := ⟨slots, ∅⟩

def slot (m : Memo κ) (key : κ) : Nat := (Digestible.digest key).toNat % m.slots

/-- The number under a key, unless it was never stored or has been forgotten. -/
def find? [DecidableEq κ] (m : Memo κ) (key : κ) : Option Nat :=
  match m.entries[m.slot key]? with
  | some (stored, n) => if stored = key then some n else none
  | none => none

def store (m : Memo κ) (key : κ) (n : Nat) : Memo κ :=
  { m with entries := m.entries.insert (m.slot key) (key, n) }

end Memo
end DocQuery.Pattern
