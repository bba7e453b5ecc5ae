import DocQuery.Text.CharSet

/-!
# Intervals of characters as bytes

A character takes one to four bytes: a lead byte, and behind it bytes that hold six bits each. The
characters of an interval are those whose bytes follow one of several sequences of byte ranges. The
sequences come in increasing order, and no two of them have a character in common.
-/

namespace DocQuery.Pattern.Utf8

open Text

abbrev ByteRange := Nat × Nat

/-- The sequences for the numbers from `low` to `high`, written as one byte upwards of `lead` and
`count` bytes of six bits behind it. Where the first byte differs, the numbers below the first
multiple and above the last one are split off. -/
def split : (lead count low high : Nat) → List (List ByteRange)
  | lead, 0, low, high => [[(lead + low, lead + high)]]
  | lead, count + 1, low, high =>
    let unit := Nat.pow 64 (count + 1)
    let first := low / unit
    let last := high / unit
    let under (digit low high : Nat) : List (List ByteRange) :=
      (split 0x80 count low high).map ((lead + digit, lead + digit) :: ·)
    if first = last then under first (low % unit) (high % unit)
    else
      let (below, first) :=
        if low % unit = 0 then ([], first) else (under first (low % unit) (unit - 1), first + 1)
      let (above, last) :=
        if high % unit + 1 = unit then ([], last) else (under last 0 (high % unit), last - 1)
      let whole :=
        if first ≤ last then
          [(lead + first, lead + last) :: List.replicate (count + 1) (0x80, 0xBF)]
        else []
      below ++ whole ++ above

/-- The characters whose bytes have the same shape. -/
structure Block where
  interval : Interval
  lead : Nat
  count : Nat

/-- All characters by the number of their bytes, without the surrogates. -/
def blocks : List Block :=
  [⟨(0, 0x7F), 0, 0⟩, ⟨(0x80, 0x7FF), 0xC0, 1⟩, ⟨(0x800, 0xD7FF), 0xE0, 2⟩,
   ⟨(0xE000, 0xFFFF), 0xE0, 2⟩, ⟨(0x10000, 0x10FFFF), 0xF0, 3⟩]

def sequences (i : Interval) : List (List ByteRange) :=
  blocks.flatMap fun block =>
    let low := max i.1 block.interval.1
    let high := min i.2 block.interval.2
    if low ≤ high then split block.lead block.count low high else []

def sequencesOf (s : CharSet) : List (List ByteRange) := s.intervals.flatMap sequences

end DocQuery.Pattern.Utf8
