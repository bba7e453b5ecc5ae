import DocQuery.Text.Decimal

/-!
# Doubles as sixty-four bits

A double is kept as its bits: one sign, eleven exponent bits, fifty-two fraction bits. A finite
double stands for `± mantissa * 2 ^ exponent`, read off exactly, and every operation here is exact
arithmetic on naturals, so that what holds of a double can be computed and proved.
-/

namespace DocQuery.Numeric

open Text

structure Binary64 where
  bits : UInt64
deriving DecidableEq, Repr

namespace Binary64

def negative (x : Binary64) : Bool := 0x8000000000000000 ≤ x.bits.toNat

/-- The bits without the sign. They grow with the magnitude of the double. -/
def magnitudeBits (x : Binary64) : Nat := x.bits.toNat % 0x8000000000000000

def exponentBits (x : Binary64) : Nat := x.magnitudeBits / 0x10000000000000

def fractionBits (x : Binary64) : Nat := x.magnitudeBits % 0x10000000000000

def isFinite (x : Binary64) : Bool := x.exponentBits < 2047

def isNaN (x : Binary64) : Bool := x.exponentBits = 2047 ∧ x.fractionBits ≠ 0

def isZero (x : Binary64) : Bool := x.magnitudeBits = 0

/-- The integer `m` of the magnitude `m * 2 ^ e` of a finite double. -/
def mantissa (x : Binary64) : Nat :=
  if x.exponentBits = 0 then x.fractionBits else 0x10000000000000 + x.fractionBits

/-- The power `e` of the magnitude `m * 2 ^ e` of a finite double. -/
def exponent (x : Binary64) : Int :=
  if x.exponentBits = 0 then -1074 else (x.exponentBits : Int) - 1075

/-- Numerical equality: a NaN equals nothing, the two zeros are equal. -/
def numEq (x y : Binary64) : Bool :=
  !x.isNaN && !y.isNaN && (x == y || (x.isZero && y.isZero))

def wholeMagnitude? (x : Binary64) : Option Nat :=
  match x.exponent with
  | .ofNat e => some (x.mantissa * Nat.pow 2 e)
  | .negSucc e =>
    if x.mantissa % Nat.pow 2 (e + 1) = 0 then some (x.mantissa / Nat.pow 2 (e + 1)) else none

/-! ## Rounding -/

def ofMagnitudeBits (negative : Bool) (magnitude : Nat) : Binary64 :=
  ⟨(magnitude + if negative then 0x8000000000000000 else 0).toUInt64⟩

def zero (negative : Bool) : Binary64 := ofMagnitudeBits negative 0

/-- The quotient rounded to the nearest whole number, a half going to the even one. -/
def roundDiv (num den : Nat) : Nat :=
  let q := num / den
  let r := num % den
  if 2 * r < den ∨ (2 * r = den ∧ q % 2 = 0) then q else q + 1

/-- The greatest `k` with `2 ^ k ≤ num / den`, for positive arguments. -/
def floorLog2 (num den : Nat) : Int :=
  let k : Int := (num.log2 : Int) - den.log2
  let fits := if 0 ≤ k then den * Nat.pow 2 k.toNat ≤ num else den ≤ num * Nat.pow 2 (-k).toNat
  if fits then k else k - 1

/-- The magnitude bits of the double nearest to the positive ratio `num / den`; they are those of
infinity, or beyond, if the ratio is too large. -/
def nearestBits (num den : Nat) : Nat :=
  let e := max (floorLog2 num den - 52) (-1074)
  let m :=
    if 0 ≤ e then roundDiv num (den * Nat.pow 2 e.toNat)
    else roundDiv (num * Nat.pow 2 (-e).toNat) den
  if m < 0x10000000000000 then m else (e + 1075).toNat * 0x10000000000000 + (m - 0x10000000000000)

/-- The magnitude bits of infinity, the least that are not finite. -/
def infinityBits : Nat := 2047 * 0x10000000000000

/-- The finite double nearest to `± num / den`, unless the magnitude is too large. -/
def ofRatio? (negative : Bool) (num den : Nat) : Option Binary64 :=
  if num = 0 then some (zero negative)
  else
    let bits := nearestBits num den
    if bits < infinityBits then some (ofMagnitudeBits negative bits) else none

/-- The finite double nearest to `± digits * 10 ^ power`, unless the magnitude is too large. Powers
far outside the range of doubles are decided without forming the number. -/
def ofDecimal? (negative : Bool) (digits : Nat) (power : Int) : Option Binary64 :=
  let size : Int := (decimalChars digits).length + power
  if digits = 0 ∨ size < -400 then some (zero negative)
  else if 400 < size then none
  else if 0 ≤ power then ofRatio? negative (digits * Nat.pow 10 power.toNat) 1
  else ofRatio? negative digits (Nat.pow 10 (-power).toNat)

def ofInt (n : Int) : Binary64 :=
  (ofRatio? (n < 0) n.natAbs 1).getD (zero false)

/-! ## Laws -/

theorem numEq_comm (x y : Binary64) : x.numEq y = y.numEq x := by
  simp only [numEq, BEq.comm (a := x), Bool.and_comm x.isZero, Bool.and_comm (!x.isNaN)]

theorem numEq_self_iff {x : Binary64} : x.numEq x = true ↔ x.isNaN = false := by
  simp [numEq]

theorem not_isNaN_of_isFinite {x : Binary64} (h : x.isFinite = true) : x.isNaN = false := by
  simp only [isFinite, decide_eq_true_eq] at h
  simp only [isNaN, decide_eq_false_iff_not]
  omega

theorem numEq_self_of_isFinite {x : Binary64} (h : x.isFinite = true) : x.numEq x = true :=
  numEq_self_iff.2 (not_isNaN_of_isFinite h)

theorem isFinite_ofMagnitudeBits {negative : Bool} {m : Nat} (h : m < infinityBits) :
    (ofMagnitudeBits negative m).isFinite = true := by
  simp only [infinityBits] at h
  have hm : (ofMagnitudeBits negative m).magnitudeBits = m := by
    unfold ofMagnitudeBits magnitudeBits
    cases negative <;> simp <;> omega
  simp only [isFinite, exponentBits, hm, decide_eq_true_eq]
  omega

theorem isFinite_of_ofRatio? {negative : Bool} {num den : Nat} {x : Binary64}
    (h : ofRatio? negative num den = some x) : x.isFinite = true := by
  unfold ofRatio? at h
  split at h
  · cases h; exact isFinite_ofMagnitudeBits (by decide)
  · dsimp only at h
    split at h
    · cases h; exact isFinite_ofMagnitudeBits ‹_›
    · contradiction

theorem isFinite_ofInt (n : Int) : (ofInt n).isFinite = true := by
  unfold ofInt
  cases h : ofRatio? (n < 0) n.natAbs 1 with
  | none => exact isFinite_ofMagnitudeBits (by decide)
  | some x => exact isFinite_of_ofRatio? h

end Binary64

structure Finite64 where
  val : Binary64
  finite : val.isFinite = true
deriving DecidableEq, Repr

namespace Finite64

def ofBinary64? (x : Binary64) : Option Finite64 :=
  if h : x.isFinite = true then some ⟨x, h⟩ else none

def ofDecimal? (negative : Bool) (digits : Nat) (power : Int) : Option Finite64 :=
  (Binary64.ofDecimal? negative digits power).bind ofBinary64?

def ofInt (n : Int) : Finite64 := ⟨.ofInt n, Binary64.isFinite_ofInt n⟩

@[simp] theorem ofBinary64?_val (x : Finite64) : ofBinary64? x.val = some x := by
  simp [ofBinary64?, x.finite]

end Finite64
end DocQuery.Numeric
