import DocQuery.Proofs.Provision.Guarantees

/-! # The one request of a part

Where every answer is definite, finding out what is missing and providing a function come to one
request each, and end after the answer without another wait. What the world is like then follows
from what it was like when the request was sent, and when it was answered.
-/

namespace DocQuery.Provision

open Catalog (Reply Request)

variable {σ α : Type} {place : Place} {self : ThreadId} {w : World σ}

namespace Provisioner

end Provisioner

/-! ## Locks that nobody else wants -/

namespace LockTable

variable {t : LockTable} {key : LockKey} {l : LockId}

def Calm (t : LockTable) : Prop := ∀ l, (t.locks l).waiting = []

theorem Calm.setLock (h : t.Calm) {x : Lock} (hx : x.waiting = []) : (t.setLock l x).Calm := by
  intro l'
  rw [setLock_locks]
  split
  · exact hx
  · exact h l'

theorem InOrder.calm (h : t.InOrder fun _ => .idle) : t.Calm := by
  intro l
  refine List.eq_nil_iff_forall_not_mem.2 fun id hid => ?_
  have hwaits := (h.lined.waiting l id).1 hid
  cases hwaits

theorem Calm.take (h : t.Calm) (hfree : t.serving.get? key = none) (self : ThreadId) :
    ∃ t', (t.fetch key).2.acquire (t.fetch key).1 self = (true, t') ∧ t'.Calm ∧
      ∀ other, other ≠ key → t'.serving.get? other = t.serving.get? other := by
  let t₁ : LockTable := { t.setLock t.made { users := 2 } with
    serving := t.serving.insert key t.made, made := t.made + 1 }
  have hfetch : t.fetch key = (t.made, t₁) := by simp [fetch, hfree, t₁]
  have hlock : t₁.locks t.made = { users := 2 } := if_pos rfl
  have hcalm : t₁.Calm := h.setLock rfl
  refine ⟨t₁.setLock t.made { users := 2, holder := some self }, ?_, hcalm.setLock rfl,
    fun other hother => Entries.get?_insert_of_ne hother⟩
  rw [hfetch, acquire, hlock]

theorem Calm.leave (h : t.Calm) (key : LockKey) (l : LockId) :
    ∃ t', t.release l = (none, t') ∧ (t'.discard key l).Calm ∧
      ∀ other, other ≠ key → (t'.discard key l).serving.get? other = t.serving.get? other := by
  refine ⟨t.setLock l { t.locks l with holder := none }, by simp [release, h l], ?_, ?_⟩
  · have hreleased : (t.setLock l { t.locks l with holder := none }).Calm := h.setLock (h l)
    generalize t.setLock l _ = t' at hreleased
    have hretired : (t'.retire key l).Calm := by
      rw [retire]
      split
      · exact hreleased.setLock (hreleased l)
      · exact hreleased
    exact hretired.setLock (hretired l)
  · intro other hother
    show (retire _ key l).serving.get? other = _
    rw [retire]
    split
    · exact Entries.get?_erase_of_ne hother
    · rfl

end LockTable

namespace World

/-- Nobody waits for a lock of a provisioner, and the locks of other keys are as they were. -/
def LocksAside (i : Nat) (key : LockKey) (w w' : World σ) : Prop :=
  (w'.locks i).Calm ∧ ∀ other, other ≠ key →
    (w'.locks i).serving.get? other = (w.locks i).serving.get? other

end World

namespace Provisioner

end Provisioner

end DocQuery.Provision
