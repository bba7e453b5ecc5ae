import DocQuery.Numeric.Binary64
import DocQuery.Text.Decimal

/-!
# The fewest digits that read back

Every real in an interval around a double rounds to it. The shortest decimal of the double is the
decimal in that interval with the fewest digits, and among those with as few the one nearest to the
double. The search tries the decimal grids of `1, 2, … 17` digits and tests the two neighbours of
the double on each, in exact arithmetic.
-/

namespace DocQuery.Numeric

open Text

structure Decimal where
  digits : Nat
  power : Int
deriving DecidableEq, Repr

namespace Decimal

/-- The power of ten of the first digit, for a decimal that is not zero. -/
def leading (d : Decimal) : Int := (decimalChars d.digits).length - 1 + d.power

def stripAux : (fuel : Nat) → Decimal → Decimal
  | 0, d => d
  | fuel + 1, d =>
    if d.digits ≠ 0 ∧ d.digits % 10 = 0 then stripAux fuel ⟨d.digits / 10, d.power + 1⟩ else d

/-- The same number without zeros at the end of its digits. -/
def strip (d : Decimal) : Decimal := stripAux (decimalChars d.digits).length d

end Decimal

namespace Shortest

/-- The interval of reals that round to a double, in units of a quarter of its last place: the
double is `4 * mantissa` of them, and `unit` is `2 ^ unitPower`. -/
structure Interval where
  low : Nat
  value : Nat
  high : Nat
  closed : Bool
  unitPower : Int
deriving Repr

/-- The interval of a finite double. The lower half is narrower at a power of two, where the doubles
below lie closer, and the ends belong to it when the mantissa is even. -/
def interval (x : Binary64) : Interval :=
  let m := x.mantissa
  let narrow := x.fractionBits = 0 ∧ 1 < x.exponentBits
  { low := 4 * m - if narrow then 1 else 2
    value := 4 * m
    high := 4 * m + 2
    closed := m % 2 = 0
    unitPower := x.exponent - 2 }

def powRatio (b : Nat) (k : Int) : Nat × Nat :=
  if 0 ≤ k then (Nat.pow b k.toNat, 1) else (1, Nat.pow b (-k).toNat)

/-- The greatest `k` with `10 ^ k ≤ value * unit`, found from a first guess by the binary logarithm
that is off by at most one. -/
def floorLog10 (i : Interval) : Int :=
  let (un, ud) := powRatio 2 i.unitPower
  let guess : Int := ((i.value.log2 : Int) + i.unitPower) * 30103 / 100000
  let reached (k : Int) : Bool :=
    let (tn, td) := powRatio 10 k
    tn * ud ≤ i.value * un * td
  if reached (guess + 1) then guess + 1 else if reached guess then guess else guess - 1

/-- The decimal of the grid `10 ^ k` that lies in the interval and nearest to its value; of two that
are equally near, the even one. -/
def onGrid? (i : Interval) (k : Int) : Option Decimal :=
  let (un, ud) := powRatio 2 i.unitPower
  let (tn, td) := powRatio 10 k
  let step := tn * ud
  let scale (n : Nat) : Nat := n * un * td
  let below := scale i.value / step
  let fits (d : Nat) : Bool :=
    if i.closed then scale i.low ≤ d * step && d * step ≤ scale i.high
    else scale i.low < d * step && d * step < scale i.high
  let rest := scale i.value % step
  let upper := 2 * rest > step ∨ (2 * rest = step ∧ below % 2 = 1)
  match fits below, fits (below + 1) with
  | true, true => some ⟨if upper then below + 1 else below, k⟩
  | true, false => some ⟨below, k⟩
  | false, true => some ⟨below + 1, k⟩
  | false, false => none

def searchAux (i : Interval) (top : Int) : (fuel : Nat) → (count : Nat) → Decimal
  | 0, _ => ⟨0, 0⟩
  | fuel + 1, count =>
    match onGrid? i (top - (count - 1 : Int)) with
    | some d => d.strip
    | none => searchAux i top fuel (count + 1)

end Shortest

/-- The shortest decimal that rounds to the magnitude of a finite double. -/
def Binary64.shortest (x : Binary64) : Decimal :=
  if x.isZero then ⟨0, 0⟩
  else
    let i := Shortest.interval x
    Shortest.searchAux i (Shortest.floorLog10 i) 20 1

end DocQuery.Numeric
