import DocQuery.Proofs.Provision.Contract

/-! # The table of locks

A table is in order when it agrees with how the threads stand to it: it serves exactly the keys
that some thread uses, the number of users of each lock is right, and the holder and the queue of a
lock are the threads that hold it and wait for it. Each operation keeps the table in order while one
thread changes its stance. A lock leaves the table only with its last user, so that no key is ever
served by two locks.
-/

namespace DocQuery.Provision

namespace Stance

def lock? : Stance → Option (LockKey × LockId)
  | .idle => none
  | .user key l => some (key, l)
  | .waiting key l => some (key, l)
  | .holder key l => some (key, l)

@[simp, grind =] theorem lock?_idle : lock? .idle = none := rfl

@[simp, grind =] theorem lock?_user (key : LockKey) (l : LockId) :
    lock? (.user key l) = some (key, l) := rfl

@[simp, grind =] theorem lock?_waiting (key : LockKey) (l : LockId) :
    lock? (.waiting key l) = some (key, l) := rfl

@[simp, grind =] theorem lock?_holder (key : LockKey) (l : LockId) :
    lock? (.holder key l) = some (key, l) := rfl

def holds? : Stance → Option LockId
  | .holder _ l => some l
  | _ => none

def awaits? : Stance → Option LockId
  | .waiting _ l => some l
  | _ => none

@[simp, grind =] theorem holds?_idle : holds? .idle = none := rfl

@[simp, grind =] theorem holds?_user (key : LockKey) (l : LockId) :
    holds? (.user key l) = none := rfl

@[simp, grind =] theorem holds?_waiting (key : LockKey) (l : LockId) :
    holds? (.waiting key l) = none := rfl

@[simp, grind =] theorem holds?_holder (key : LockKey) (l : LockId) :
    holds? (.holder key l) = some l := rfl

@[simp, grind =] theorem awaits?_idle : awaits? .idle = none := rfl

@[simp, grind =] theorem awaits?_user (key : LockKey) (l : LockId) :
    awaits? (.user key l) = none := rfl

@[simp, grind =] theorem awaits?_waiting (key : LockKey) (l : LockId) :
    awaits? (.waiting key l) = some l := rfl

@[simp, grind =] theorem awaits?_holder (key : LockKey) (l : LockId) :
    awaits? (.holder key l) = none := rfl

theorem eq_holder_of_holds? {s : Stance} {l : LockId} (h : s.holds? = some l) :
    ∃ key, s = .holder key l := by
  cases s <;> simp_all

theorem eq_waiting_of_awaits? {s : Stance} {l : LockId} (h : s.awaits? = some l) :
    ∃ key, s = .waiting key l := by
  cases s <;> simp_all

end Stance

def setStance (stance : ThreadId → Stance) (id : ThreadId) (s : Stance) : ThreadId → Stance :=
  fun i => if i = id then s else stance i

@[simp, grind =] theorem setStance_apply (stance : ThreadId → Stance) (id i : ThreadId)
    (s : Stance) : setStance stance id s i = if i = id then s else stance i := rfl

namespace LockTable

@[simp, grind =] theorem setLock_serving (t : LockTable) (l : LockId) (x : Lock) :
    (t.setLock l x).serving = t.serving := rfl

@[simp, grind =] theorem setLock_made (t : LockTable) (l : LockId) (x : Lock) :
    (t.setLock l x).made = t.made := rfl

@[simp, grind =] theorem setLock_locks (t : LockTable) (l : LockId) (x : Lock) (i : LockId) :
    (t.setLock l x).locks i = if i = l then x else t.locks i := rfl

/-- A table that serves exactly what the threads use, and knows how many use each lock. -/
structure Tallied (t : LockTable) (stance : ThreadId → Stance) : Prop where
  keys : t.serving.keys.Nodup
  made : ∀ {key l}, t.serving.get? key = some l → l < t.made
  distinct : ∀ {key key' l}, t.serving.get? key = some l → t.serving.get? key' = some l → key = key'
  serves : ∀ {id key l}, (stance id).lock? = some (key, l) → t.serving.get? key = some l
  users : ∀ {key l}, t.serving.get? key = some l → ∃ ids : List ThreadId, ids ≠ [] ∧ ids.Nodup ∧
    (∀ id, id ∈ ids ↔ (stance id).lock? = some (key, l)) ∧ (t.locks l).users = ids.length + 1

/-- A table whose locks know who holds them and who waits for them. -/
structure Lined (t : LockTable) (stance : ThreadId → Stance) : Prop where
  holder : ∀ l id, (t.locks l).holder = some id ↔ (stance id).holds? = some l
  waiting : ∀ l id, id ∈ (t.locks l).waiting ↔ (stance id).awaits? = some l
  nodup : ∀ l, (t.locks l).waiting.Nodup
  /-- Nobody waits for a lock that is free. -/
  free : ∀ l, (t.locks l).holder = none → (t.locks l).waiting = []

structure InOrder (t : LockTable) (stance : ThreadId → Stance) : Prop where
  tallied : t.Tallied stance
  lined : t.Lined stance

variable {t : LockTable} {stance stance' : ThreadId → Stance} {id : ThreadId} {key : LockKey}
  {l : LockId}

theorem inOrder_empty : InOrder {} fun _ => .idle where
  tallied := by constructor <;> simp
  lined := by constructor <;> simp

/-- The lock of a key is held by at most one thread. -/
theorem InOrder.exclusive (h : t.InOrder stance) {id' : ThreadId} {l' : LockId}
    (h₁ : stance id = .holder key l) (h₂ : stance id' = .holder key l') : id = id' := by
  have hl : t.serving.get? key = some l := h.tallied.serves (by rw [h₁]; rfl)
  have hl' : t.serving.get? key = some l' := h.tallied.serves (by rw [h₂]; rfl)
  obtain rfl : l = l' := Option.some.inj (hl.symm.trans hl')
  have ho := (h.lined.holder l id).2 (by rw [h₁]; rfl)
  have ho' := (h.lined.holder l id').2 (by rw [h₂]; rfl)
  exact Option.some.inj (ho.symm.trans ho')

/-- While the lock of a key is free, nobody holds a lock for the key. -/
theorem InOrder.unheld (h : t.InOrder stance) (hs : stance id = .user key l)
    (hf : (t.locks l).holder = none) (id' : ThreadId) (l' : LockId) :
    stance id' ≠ .holder key l' := by
  intro hs'
  have hl : t.serving.get? key = some l := h.tallied.serves (by rw [hs]; rfl)
  have hl' : t.serving.get? key = some l' := h.tallied.serves (by rw [hs']; rfl)
  obtain rfl : l = l' := Option.some.inj (hl.symm.trans hl')
  have ho := (h.lined.holder l id').2 (by rw [hs']; rfl)
  simp [hf] at ho

theorem InOrder.serving_nil (h : t.InOrder stance) (idle : ∀ id, stance id = .idle) :
    t.serving = [] := by
  cases hs : t.serving with
  | nil => rfl
  | cons entry rest =>
      obtain ⟨key, l⟩ := entry
      have hl : t.serving.get? key = some l := by simp [hs, Entries.get?]
      obtain ⟨ids, hne, -, hids, -⟩ := h.tallied.users hl
      obtain ⟨id, hid⟩ := List.exists_mem_of_ne_nil ids hne
      have := (hids id).1 hid
      simp [idle id] at this

theorem Tallied.congr {t' : LockTable} (h : t.Tallied stance) (hs : t'.serving = t.serving)
    (hm : t'.made = t.made) (hu : ∀ l, (t'.locks l).users = (t.locks l).users)
    (hl : ∀ id, (stance' id).lock? = (stance id).lock?) : t'.Tallied stance' where
  keys := by rw [hs]; exact h.keys
  made := by rw [hs, hm]; exact h.made
  distinct := by rw [hs]; exact h.distinct
  serves := by rw [hs]; intro id key l; rw [hl]; exact h.serves
  users := by
    rw [hs]
    intro key l hk
    simpa only [hu, hl] using h.users hk

theorem Lined.congr {t' : LockTable} (h : t.Lined stance)
    (hh : ∀ l, (t'.locks l).holder = (t.locks l).holder)
    (hw : ∀ l, (t'.locks l).waiting = (t.locks l).waiting)
    (hs : ∀ id, (stance' id).holds? = (stance id).holds? ∧
      (stance' id).awaits? = (stance id).awaits?) : t'.Lined stance' where
  holder := by simpa only [hh, hs] using h.holder
  waiting := by simpa only [hw, hs] using h.waiting
  nodup := by simpa only [hw] using h.nodup
  free := by simpa only [hh, hw] using h.free

theorem InOrder.not_made (h : t.InOrder stance) :
    (t.locks t.made).holder = none ∧ (t.locks t.made).waiting = [] := by
  have unused : ∀ id key, (stance id).lock? ≠ some (key, t.made) := fun id key hl =>
    Nat.lt_irrefl _ (h.tallied.made (h.tallied.serves hl))
  constructor
  · rw [Option.eq_none_iff_forall_ne_some]
    intro id ho
    obtain ⟨key, hk⟩ := Stance.eq_holder_of_holds? ((h.lined.holder _ _).1 ho)
    exact unused id key (by rw [hk]; rfl)
  · rw [List.eq_nil_iff_forall_not_mem]
    intro id hw
    obtain ⟨key, hk⟩ := Stance.eq_waiting_of_awaits? ((h.lined.waiting _ _).1 hw)
    exact unused id key (by rw [hk]; rfl)

theorem InOrder.fetch (h : t.InOrder stance) (hs : stance id = .idle) (key : LockKey) :
    (t.fetch key).2.InOrder (setStance stance id (.user key (t.fetch key).1)) := by
  cases hk : t.serving.get? key with
  | some l =>
      have hf : t.fetch key =
          (l, t.setLock l { t.locks l with users := (t.locks l).users + 1 }) := by
        simp [LockTable.fetch, hk]
      rw [hf]
      refine ⟨?_, h.lined.congr (by intro i; grind) (by intro i; grind) (by intro i; grind)⟩
      refine ⟨h.tallied.keys, h.tallied.made, h.tallied.distinct, ?_, ?_⟩
      · intro id' key' l' hl
        have hs' : (stance id').lock? = some (key', l') → t.serving.get? key' = some l' :=
          h.tallied.serves
        grind
      · intro key' l' hk'
        obtain ⟨ids, hne, hnd, hids, hu⟩ := h.tallied.users hk'
        by_cases he : l' = l
        · subst he
          obtain rfl := h.tallied.distinct hk hk'
          exact ⟨id :: ids, by simp, by grind, by grind, by grind⟩
        · exact ⟨ids, hne, hnd, by grind, by grind⟩
  | none =>
      have hf : t.fetch key = (t.made, { t.setLock t.made { users := 2 } with
          serving := t.serving.insert key t.made, made := t.made + 1 }) := by
        simp [LockTable.fetch, hk]
      rw [hf]
      obtain ⟨hh, hw⟩ := h.not_made
      refine ⟨?_, h.lined.congr (by intro i; grind) (by intro i; grind) (by intro i; grind)⟩
      have hg := Entries.get?_insert t.serving key (v := t.made)
      refine ⟨Entries.nodup_keys_insert h.tallied.keys _ _, ?_, ?_, ?_, ?_⟩
      · intro key' l' hk'
        have hm : t.serving.get? key' = some l' → l' < t.made := h.tallied.made
        grind
      · intro key' key'' l' hk' hk''
        have hm : t.serving.get? key' = some l' → l' < t.made := h.tallied.made
        have hm' : t.serving.get? key'' = some l' → l' < t.made := h.tallied.made
        have hd : t.serving.get? key' = some l' → t.serving.get? key'' = some l' → key' = key'' :=
          h.tallied.distinct
        grind
      · intro id' key' l' hl
        have hs' : (stance id').lock? = some (key', l') → t.serving.get? key' = some l' :=
          h.tallied.serves
        grind
      · intro key' l' hk'
        by_cases he : key' = key
        · refine ⟨[id], by simp, by simp, ?_, by grind⟩
          intro id'
          have hs' : ∀ l', (stance id').lock? = some (key', l') → t.serving.get? key' = some l' :=
            fun _ => h.tallied.serves
          grind
        · simp only [hg, he, if_false] at hk'
          obtain ⟨ids, hne, hnd, hids, hu⟩ := h.tallied.users hk'
          have hl' := h.tallied.made hk'
          refine ⟨ids, hne, hnd, by grind, ?_⟩
          simp [Nat.ne_of_lt hl', hu]

theorem acquire_fst (t : LockTable) (l : LockId) (id : ThreadId) :
    (t.acquire l id).1 = (t.locks l).holder.isNone := by
  cases hh : (t.locks l).holder <;> simp [acquire, hh]

theorem InOrder.acquire_free (h : t.InOrder stance) (hs : stance id = .user key l)
    (hf : (t.locks l).holder = none) :
    (t.acquire l id).2.InOrder (setStance stance id (.holder key l)) := by
  simp only [acquire, hf]
  refine ⟨h.tallied.congr rfl rfl (by intro i; grind) (by intro i; grind), ?_⟩
  have hw := h.lined.free l hf
  refine ⟨?_, ?_, ?_, ?_⟩
  · intro l' id'
    grind [h.lined.holder l' id']
  · intro l' id'
    grind [h.lined.waiting l' id']
  · intro l'
    grind [h.lined.nodup l']
  · intro l'
    grind [h.lined.free l']

theorem InOrder.acquire_taken (h : t.InOrder stance) (hs : stance id = .user key l)
    (ht : (t.locks l).holder ≠ none) :
    (t.acquire l id).2.InOrder (setStance stance id (.waiting key l)) := by
  obtain ⟨id', hh⟩ := Option.ne_none_iff_exists'.1 ht
  simp only [acquire, hh]
  refine ⟨h.tallied.congr rfl rfl (by intro i; grind) (by intro i; grind), ?_⟩
  refine ⟨?_, ?_, ?_, ?_⟩
  · intro l' id'
    grind [h.lined.holder l' id']
  · intro l' id'
    grind [h.lined.waiting l' id']
  · intro l'
    grind [h.lined.nodup l', h.lined.waiting l id]
  · intro l'
    grind [h.lined.free l']

theorem InOrder.release_free (h : t.InOrder stance) (hs : stance id = .holder key l)
    (hw : (t.locks l).waiting = []) :
    (t.setLock l { t.locks l with holder := none }).InOrder
      (setStance stance id (.user key l)) := by
  refine ⟨h.tallied.congr rfl rfl (by intro i; grind) (by intro i; grind), ?_⟩
  have ho := (h.lined.holder l id).2 (by rw [hs]; rfl)
  refine ⟨?_, ?_, ?_, ?_⟩
  · intro l' id'
    grind [h.lined.holder l' id']
  · intro l' id'
    grind [h.lined.waiting l' id']
  · intro l'
    grind [h.lined.nodup l']
  · intro l'
    grind [h.lined.free l']

/-- The first that waits for a lock is handed it. It waits for the lock on behalf of the same key.
-/
theorem InOrder.release_handed (h : t.InOrder stance) (hs : stance id = .holder key l)
    {next : ThreadId} {rest : List ThreadId} (hw : (t.locks l).waiting = next :: rest) :
    stance next = .waiting key l ∧ next ≠ id ∧
      (t.setLock l { t.locks l with holder := some next, waiting := rest }).InOrder
        (setStance (setStance stance id (.user key l)) next (.holder key l)) := by
  have hn : stance next = .waiting key l := by
    obtain ⟨key', hk'⟩ := Stance.eq_waiting_of_awaits? ((h.lined.waiting l next).1 (by simp [hw]))
    have hg : t.serving.get? key = some l := h.tallied.serves (by rw [hs]; rfl)
    have hg' : t.serving.get? key' = some l := h.tallied.serves (by rw [hk']; rfl)
    rw [hk', h.tallied.distinct hg hg']
  have hne : next ≠ id := fun he => by
    rw [he, hs] at hn
    cases hn
  refine ⟨hn, hne, h.tallied.congr rfl rfl (by intro i; grind) (by intro i; grind), ?_⟩
  have ho := (h.lined.holder l id).2 (by rw [hs]; rfl)
  have hnd := h.lined.nodup l
  refine ⟨?_, ?_, ?_, ?_⟩
  · intro l' id'
    grind [h.lined.holder l' id']
  · intro l' id'
    grind [h.lined.waiting l' id']
  · intro l'
    grind [h.lined.nodup l']
  · intro l'
    grind [h.lined.free l']

/-- A thread that ends its use of a lock leaves the table in order. The lock goes out of the table
exactly if nobody else uses it. -/
theorem InOrder.discard (h : t.InOrder stance) (hs : stance id = .user key l) :
    (t.discard key l).InOrder (setStance stance id .idle) := by
  have hk : t.serving.get? key = some l := h.tallied.serves (by rw [hs]; rfl)
  obtain ⟨ids, hne, hnd, hids, hu⟩ := h.tallied.users hk
  have hid : id ∈ ids := (hids id).2 (by rw [hs]; rfl)
  by_cases hlast : (t.locks l).users = 2
  · obtain ⟨id', rfl⟩ : ∃ id', ids = [id'] := List.length_eq_one_iff.1 (by omega)
    obtain rfl : id = id' := by simpa using hid
    have hd : (t.discard key l).serving = t.serving.erase key ∧
        (t.discard key l).made = t.made ∧ ∀ i, (t.discard key l).locks i =
          if i = l then { t.locks l with users := 0 } else t.locks i := by
      simp only [LockTable.discard, retire, hk, hlast]
      grind
    obtain ⟨hserving, hmade, hlocks⟩ := hd
    have hg := Entries.get?_erase h.tallied.keys key
    refine ⟨?_, h.lined.congr (by intro i; grind) (by intro i; grind) (by intro i; grind)⟩
    refine ⟨?_, ?_, ?_, ?_, ?_⟩
    · rw [hserving]
      exact Entries.nodup_keys_erase h.tallied.keys key
    · intro key' l' hk'
      have hm : t.serving.get? key' = some l' → l' < t.made := h.tallied.made
      grind
    · intro key' key'' l' hk' hk''
      have hd : t.serving.get? key' = some l' → t.serving.get? key'' = some l' → key' = key'' :=
        h.tallied.distinct
      grind
    · intro id' key' l' hl
      have hs' : (stance id').lock? = some (key', l') → t.serving.get? key' = some l' :=
        h.tallied.serves
      grind
    · intro key' l' hk'
      rw [hserving, hg] at hk'
      split at hk'
      · cases hk'
      · rename_i hkey
        obtain ⟨ids', hne', hnd', hids', hu'⟩ := h.tallied.users hk'
        have hl : l' ≠ l := fun he => hkey (h.tallied.distinct (he ▸ hk') hk)
        exact ⟨ids', hne', hnd', by grind, by grind⟩
  · have hd : t.discard key l =
        t.setLock l { t.locks l with users := (t.locks l).users - 1 } := by
      simp [LockTable.discard, retire, hlast]
    rw [hd]
    refine ⟨?_, h.lined.congr (by intro i; grind) (by intro i; grind) (by intro i; grind)⟩
    refine ⟨h.tallied.keys, h.tallied.made, h.tallied.distinct, ?_, ?_⟩
    · intro id' key' l' hl
      have hs' : (stance id').lock? = some (key', l') → t.serving.get? key' = some l' :=
        h.tallied.serves
      grind
    · intro key' l' hk'
      by_cases he : l' = l
      · subst he
        obtain rfl := h.tallied.distinct hk hk'
        have hlen := List.length_erase_of_mem hid
        refine ⟨ids.erase id, ?_, hnd.erase id, ?_, ?_⟩
        · have hpos := List.length_pos_of_mem hid
          rw [Ne, ← List.length_eq_zero_iff, hlen]
          omega
        · intro id'
          rw [hnd.mem_erase_iff, hids]
          grind
        · have hpos := List.length_pos_of_mem hid
          simp only [setLock_locks, if_true]
          omega
      · obtain ⟨ids', hne', hnd', hids', hu'⟩ := h.tallied.users hk'
        exact ⟨ids', hne', hnd', by grind, by grind⟩

end LockTable
end DocQuery.Provision
