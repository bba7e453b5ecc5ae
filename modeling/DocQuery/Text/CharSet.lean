/-!
# Sets of characters

A set of characters is a list of closed intervals of code points in increasing order, no two of
which overlap or touch. The operations keep this form, so that equal sets have equal intervals.
-/

namespace DocQuery.Text

abbrev Interval := Nat × Nat

structure CharSet where
  intervals : List Interval
deriving DecidableEq, Repr

namespace CharSet

def containsCode (s : CharSet) (code : Nat) : Bool :=
  s.intervals.any fun i => i.1 ≤ code && code ≤ i.2

def contains (s : CharSet) (c : Char) : Bool := s.containsCode c.toNat

@[simp] theorem contains_nil (c : Char) : contains ⟨[]⟩ c = false := rfl

theorem contains_iff {s : CharSet} {c : Char} :
    s.contains c = true ↔ ∃ i ∈ s.intervals, i.1 ≤ c.toNat ∧ c.toNat ≤ i.2 := by
  simp [contains, containsCode]

def empty : CharSet := ⟨[]⟩

def lastCode : Nat := 0x10FFFF

def any : CharSet := ⟨[(0, lastCode)]⟩

def range (low high : Char) : CharSet := ⟨[(low.toNat, high.toNat)]⟩

def single (c : Char) : CharSet := range c c

/-! ## Union -/

/-- Puts an interval in front of intervals that begin no earlier, and joins it with those that it
overlaps or touches. -/
def attach (i : Interval) : List Interval → List Interval
  | [] => [i]
  | j :: js => if j.1 ≤ i.2 + 1 then attach (i.1, max i.2 j.2) js else i :: j :: js

/-- Merges `x :: xs` with a list, where `rest` merges `xs` with one. -/
def mergeWith (x : Interval) (xs : List Interval) (rest : List Interval → List Interval) :
    List Interval → List Interval
  | [] => x :: xs
  | y :: ys => if x.1 ≤ y.1 then x :: rest (y :: ys) else y :: mergeWith x xs rest ys

def merge : List Interval → List Interval → List Interval
  | [] => id
  | x :: xs => mergeWith x xs (merge xs)

def union (s t : CharSet) : CharSet := ⟨(merge s.intervals t.intervals).foldr attach []⟩

def unions (ss : List CharSet) : CharSet := ss.foldl union empty

def ofCodes (codes : List Nat) : CharSet := unions (codes.map fun code => ⟨[(code, code)]⟩)

/-! ## Complement

Surrogates are code points without a character. Counting passes over them. -/

def next (code : Nat) : Nat := if code = 0xD7FF then 0xE000 else code + 1

def previous (code : Nat) : Nat := if code = 0xE000 then 0xD7FF else code - 1

/-- From the code point after `last` to the one before the next interval, and so on to the greatest
code point. Where two intervals have only surrogates between them, the ends of the gap come in the
wrong order. -/
def gapsAfter (last : Nat) : List Interval → List Interval
  | [] => if last < lastCode then [(next last, lastCode)] else []
  | i :: is => (next last, previous i.1) :: gapsAfter i.2 is

def gaps : List Interval → List Interval
  | [] => [(0, lastCode)]
  | i :: is => if 0 < i.1 then (0, previous i.1) :: gapsAfter i.2 is else gapsAfter i.2 is

/-- The complement. The two characters next to the surrogates belong to it also when intervals end
with the one and begin with the other. -/
def compl (s : CharSet) : CharSet := ⟨(gaps s.intervals).map fun i => (min i.1 i.2, max i.1 i.2)⟩

/-! ## Intersection and difference -/

/-- The common part of `x :: xs` and a list, where `rest` takes that of `xs` and one. -/
def meetWith (x : Interval) (rest : List Interval → List Interval) :
    List Interval → List Interval
  | [] => []
  | y :: ys =>
    let tail := if x.2 < y.2 then rest (y :: ys) else meetWith x rest ys
    if max x.1 y.1 ≤ min x.2 y.2 then (max x.1 y.1, min x.2 y.2) :: tail else tail

def meet : List Interval → List Interval → List Interval
  | [] => fun _ => []
  | x :: xs => meetWith x (meet xs)

def inter (s t : CharSet) : CharSet := ⟨meet s.intervals t.intervals⟩

def diff (s t : CharSet) : CharSet :=
  ⟨meet s.intervals ((gaps t.intervals).filter fun i => i.1 ≤ i.2)⟩

def symmDiff (s t : CharSet) : CharSet := (s.union t).diff (s.inter t)

def negatedIf (negated : Bool) (s : CharSet) : CharSet := if negated then s.compl else s

def isAscii (s : CharSet) : Bool := s.intervals.all (·.2 < 128)

end CharSet
end DocQuery.Text
