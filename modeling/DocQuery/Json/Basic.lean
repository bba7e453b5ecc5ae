import DocQuery.Entries
import DocQuery.Numeric.Binary64

/-!
# JSON values

A number is an integer that sixty-four bits hold, with or without a sign, or a finite double; the
two kinds are kept apart, so that `1` is not `1.0`. The members of an object keep their order.
-/

namespace DocQuery

open Numeric

namespace Json

/-- An integer of the range that sixty-four bits hold, signed or unsigned. -/
structure Integer where
  val : Int
  lower : -0x8000000000000000 ≤ val
  upper : val < 0x10000000000000000
deriving DecidableEq, Repr

namespace Integer

def ofInt? (n : Int) : Option Integer :=
  if h : -0x8000000000000000 ≤ n ∧ n < 0x10000000000000000 then some ⟨n, h.1, h.2⟩ else none

def ofInt64 (n : Int64) : Integer :=
  ⟨n.toInt, by have := Int64.le_toInt n; omega, by have := Int64.toInt_lt n; omega⟩

def ofUInt64 (n : UInt64) : Integer :=
  ⟨n.toNat, by omega, by have := n.toNat_lt; omega⟩

def toInt64? (n : Integer) : Option Int64 :=
  if n.val < 0x8000000000000000 then some (Int64.ofInt n.val) else none

def toUInt64? (n : Integer) : Option UInt64 :=
  if 0 ≤ n.val then some (UInt64.ofNat n.val.toNat) else none

@[simp] theorem ofInt?_val (n : Integer) : ofInt? n.val = some n :=
  dif_pos ⟨n.lower, n.upper⟩

end Integer

inductive Number where
  | int (n : Integer)
  | float (x : Finite64)
deriving DecidableEq, Repr

def Number.toBinary64 : Number → Binary64
  | .int n => .ofInt n.val
  | .float x => x.val

/-- Equality of numbers of one kind: integers by value, doubles numerically. -/
def Number.same : Number → Number → Bool
  | .int a, .int b => a = b
  | .float a, .float b => a.val.numEq b.val
  | _, _ => false

end Json

inductive Json where
  | null
  | bool (b : Bool)
  | num (n : Json.Number)
  | str (s : String)
  | arr (elements : List Json)
  | obj (members : List (String × Json))
deriving Repr

namespace Json

instance : Inhabited Json := ⟨.null⟩

/-- The integer value of a natural number below `0x10000000000000000`, and the nearest double
otherwise. -/
def ofNat (n : Nat) : Json :=
  match Integer.ofInt? n with
  | some i => .num (.int i)
  | none => .num (.float (.ofInt n))

/-- A double, with `null` for those that no JSON number denotes. -/
def ofBinary64 (x : Binary64) : Json :=
  match Finite64.ofBinary64? x with
  | some f => .num (.float f)
  | none => .null

/-- The members that arise from inserting the given ones in order, so that of equal keys the last
value stands at the place of the first. -/
def ofMembers (ms : List (String × Json)) : Json := .obj (Entries.ofList ms)

def get? : Json → String → Option Json
  | .obj members, key => Entries.get? members key
  | _, _ => none

def str? : Json → Option String
  | .str s => some s
  | _ => none

def bool? : Json → Option Bool
  | .bool b => some b
  | _ => none

def arr? : Json → Option (List Json)
  | .arr elements => some elements
  | _ => none

def integer? : Json → Option Integer
  | .num (.int n) => some n
  | _ => none

def uint64? (j : Json) : Option UInt64 := j.integer?.bind Integer.toUInt64?

def int64? (j : Json) : Option Int64 := j.integer?.bind Integer.toInt64?

mutual

/-- Equality of values without regard to the order of members. -/
def same : Json → Json → Bool
  | .null, .null => true
  | .bool a, .bool b => a = b
  | .num a, .num b => a.same b
  | .str a, .str b => a = b
  | .arr as, .arr bs => sameAll as bs
  | .obj as, .obj bs => as.length = bs.length && sameMembers as bs
  | _, _ => false

def sameAll : List Json → List Json → Bool
  | [], [] => true
  | a :: as, b :: bs => a.same b && sameAll as bs
  | _, _ => false

/-- Each member of the first list has an equal one in the second. -/
def sameMembers : List (String × Json) → List (String × Json) → Bool
  | [], _ => true
  | (k, a) :: as, bs =>
    (match Entries.get? bs k with
      | some b => a.same b
      | none => false) && sameMembers as bs

end

end Json
end DocQuery
