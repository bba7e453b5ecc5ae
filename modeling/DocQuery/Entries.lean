/-!
# Entries in order of first insertion

A list of key and value pairs used as a map: writing to a key that is present replaces its value in
place, and writing to a new key appends it.
-/

namespace DocQuery

variable {κ α : Type}

abbrev Entries (κ α : Type) := List (κ × α)

namespace Entries

def keys (es : Entries κ α) : List κ := es.map Prod.fst

@[simp] theorem keys_nil : keys ([] : Entries κ α) = [] := rfl

@[simp] theorem keys_cons (p : κ × α) (es : Entries κ α) : keys (p :: es) = p.1 :: keys es := rfl

variable [DecidableEq κ]

/-- The value of the first entry with the key. -/
def get? : Entries κ α → κ → Option α
  | [], _ => none
  | (k, v) :: es, key => if k = key then some v else get? es key

def contains (es : Entries κ α) (key : κ) : Bool := (es.get? key).isSome

/-- Replaces the value of the first entry with the key, or appends an entry. -/
def insert : Entries κ α → κ → α → Entries κ α
  | [], key, value => [(key, value)]
  | (k, v) :: es, key, value =>
    if k = key then (k, value) :: es else (k, v) :: insert es key value

def erase : Entries κ α → κ → Entries κ α
  | [], _ => []
  | (k, v) :: es, key => if k = key then es else (k, v) :: erase es key

def ofList (ps : List (κ × α)) : Entries κ α := ps.foldl (fun es p => es.insert p.1 p.2) []

@[simp] theorem get?_nil (key : κ) : get? ([] : Entries κ α) key = none := rfl

theorem get?_eq_none_iff {es : Entries κ α} {key : κ} : es.get? key = none ↔ key ∉ es.keys := by
  induction es with
  | nil => simp
  | cons p es ih =>
    obtain ⟨k, v⟩ := p
    by_cases h : k = key
    · simp [get?, h]
    · simp [get?, h, ih, Ne.symm h]

theorem mem_of_get? {es : Entries κ α} {key : κ} {v : α} (h : es.get? key = some v) :
    (key, v) ∈ es := by
  induction es with
  | nil => simp at h
  | cons p es ih =>
    obtain ⟨k, w⟩ := p
    by_cases hk : k = key
    · simp_all [get?]
    · simp only [get?, hk, if_false] at h
      exact List.mem_cons_of_mem _ (ih h)

@[simp] theorem get?_insert_self (es : Entries κ α) (key : κ) (v : α) :
    (es.insert key v).get? key = some v := by
  induction es with
  | nil => simp [insert, get?]
  | cons p es ih =>
    obtain ⟨k, w⟩ := p
    by_cases h : k = key <;> simp [insert, get?, h, ih]

theorem get?_insert_of_ne {es : Entries κ α} {key other : κ} {v : α} (h : other ≠ key) :
    (es.insert key v).get? other = es.get? other := by
  induction es with
  | nil => simp [insert, get?, Ne.symm h]
  | cons p es ih =>
    obtain ⟨k, w⟩ := p
    by_cases hk : k = key
    · subst hk; simp [insert, get?, Ne.symm h]
    · simp [insert, get?, hk, ih]

theorem get?_insert (es : Entries κ α) (key other : κ) (v : α) :
    (es.insert key v).get? other = if other = key then some v else es.get? other := by
  split
  · rename_i h
    rw [h, get?_insert_self]
  · exact get?_insert_of_ne ‹_›

/-- A write keeps the keys and their order, and puts a new key at the end. -/
theorem keys_insert (es : Entries κ α) (key : κ) (v : α) :
    (es.insert key v).keys = if key ∈ es.keys then es.keys else es.keys ++ [key] := by
  induction es with
  | nil => simp [insert]
  | cons p es ih =>
    obtain ⟨k, w⟩ := p
    by_cases h : k = key
    · subst h; simp [insert]
    · simp only [insert, h, if_false, keys_cons, ih, List.mem_cons, Ne.symm h, false_or]
      split <;> simp

theorem nodup_keys_insert {es : Entries κ α} (h : es.keys.Nodup) (key : κ) (v : α) :
    (es.insert key v).keys.Nodup := by
  rw [keys_insert]
  split
  · exact h
  · rename_i hk
    rw [List.nodup_append]
    refine ⟨h, by simp, ?_⟩
    intro a ha b hb hab
    simp only [List.mem_singleton] at hb
    subst hb hab
    exact hk ha

theorem get?_erase_of_ne {es : Entries κ α} {key other : κ} (h : other ≠ key) :
    (es.erase key).get? other = es.get? other := by
  induction es with
  | nil => rfl
  | cons p es ih =>
    obtain ⟨k, w⟩ := p
    by_cases hk : k = key
    · subst hk; simp [erase, get?, Ne.symm h]
    · simp only [erase, hk, if_false, get?, ih]

theorem keys_erase (es : Entries κ α) (key : κ) : (es.erase key).keys = es.keys.erase key := by
  induction es with
  | nil => rfl
  | cons p es ih =>
    obtain ⟨k, w⟩ := p
    by_cases h : k = key
    · subst h; simp [erase]
    · simp [erase, h, ih]

/-- With distinct keys a removed key is gone. -/
theorem get?_erase_self {es : Entries κ α} (h : es.keys.Nodup) (key : κ) :
    (es.erase key).get? key = none := by
  rw [get?_eq_none_iff, keys_erase]
  exact h.not_mem_erase

theorem get?_erase {es : Entries κ α} (h : es.keys.Nodup) (key other : κ) :
    (es.erase key).get? other = if other = key then none else es.get? other := by
  split
  · rename_i ho
    rw [ho, get?_erase_self h]
  · exact get?_erase_of_ne ‹_›

theorem nodup_keys_erase {es : Entries κ α} (h : es.keys.Nodup) (key : κ) :
    (es.erase key).keys.Nodup := by
  rw [keys_erase]
  exact h.erase key

end Entries
end DocQuery
