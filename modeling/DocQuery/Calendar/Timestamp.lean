import DocQuery.Calendar.Date

/-!
# Instants in universal time

An instant is a count of seconds since 1970-01-01 and of nanoseconds within the second. A leap
second is the last second of a minute with a second more of nanoseconds; it prints as second 60.
-/

namespace DocQuery.Calendar

open Text

structure Timestamp where
  seconds : Int
  nanos : Nat
  valid : nanos < 1000000000 ∨ (nanos < 2000000000 ∧ seconds % 60 = 59)
deriving DecidableEq, Repr

namespace Timestamp

def ofUnix? (seconds : Int) (nanos : Nat) : Option Timestamp :=
  if h : nanos < 1000000000 ∨ (nanos < 2000000000 ∧ seconds % 60 = 59) then
    (Date.ofDays? (seconds / 86400)).map fun _ => ⟨seconds, nanos, h⟩
  else none

/-- Seconds within the second count of a minute, sixty for a leap second. -/
def secondOfMinute (t : Timestamp) : Nat := (t.seconds % 60).toNat + t.nanos / 1000000000

def fraction (t : Timestamp) : Nat := t.nanos % 1000000000

def wholeChars (t : Timestamp) : List Char :=
  let date := match Date.ofDays? (t.seconds / 86400) with
    | some d => d.chars
    | none => []
  let time := (t.seconds % 86400).toNat
  date ++ 'T' :: (padded 2 (time / 3600) ++ ':' :: (padded 2 (time / 60 % 60) ++
    ':' :: padded 2 t.secondOfMinute))

/-- Date and time with milliseconds; what is below a millisecond is cut off. -/
def milliChars (t : Timestamp) : List Char :=
  t.wholeChars ++ '.' :: (padded 3 (t.fraction / 1000000) ++ ['Z'])

/-- Date and time with the fewest of 0, 3, 6 or 9 places that are exact. -/
def exactChars (t : Timestamp) : List Char :=
  let f := t.fraction
  let places :=
    if f = 0 then []
    else if f % 1000000 = 0 then '.' :: padded 3 (f / 1000000)
    else if f % 1000 = 0 then '.' :: padded 6 (f / 1000)
    else '.' :: padded 9 f
  t.wholeChars ++ places ++ ['Z']

/-! ## Reading -/

/-- Nanoseconds after a point, if there is one; digits beyond the ninth are dropped. -/
def readFraction : List Char → Option (Nat × List Char)
  | '.' :: cs => do
    let (ds, rest) ← readDigits 9 cs
    return (decimalValue ds * Nat.pow 10 (9 - ds.length), rest.dropWhile isDecimal)
  | cs => some (0, cs)

def readPair : List Char → Option (Nat × List Char)
  | a :: b :: rest => if isDecimal a ∧ isDecimal b then some (decimalValue [a, b], rest) else none
  | _ => none

/-- Seconds east of universal time: `Z`, `UTC`, or a sign with hours and minutes. -/
def readOffset : List Char → Option (Int × List Char)
  | 'Z' :: rest => some (0, rest)
  | 'z' :: rest => some (0, rest)
  | c :: rest =>
    if (c = 'U' ∨ c = 'u') then
      match rest with
      | t :: u :: rest =>
        if (t = 'T' ∨ t = 't') ∧ (u = 'C' ∨ u = 'c') then some (0, rest) else none
      | _ => none
    else if c = '+' ∨ c = '-' ∨ c = '\u2212' then do
      let (hours, rest) ← readPair rest
      let (minutes, rest) ← readPair (rest.dropWhile fun c => c = ':' || isBlank c)
      if minutes < 60 then
        let east : Int := hours * 3600 + minutes * 60
        return (if c = '+' then east else -east, rest)
      else none
    else none
  | [] => none

/-- The instant that a text denotes: date, `T` or a space, time of day, offset. -/
def parse? (text : String) : Option Timestamp := do
  let (date, cs) ← Date.read text.toList
  let cs ← match cs with
    | c :: rest => if c = 'T' ∨ c = 't' ∨ c = ' ' then some rest else none
    | [] => none
  let (hour, cs) ← readTwoDigits cs
  let cs ← readMark ':' cs
  let (minute, cs) ← readTwoDigits cs
  let cs ← readMark ':' cs
  let (second, cs) ← readTwoDigits cs
  let (nanos, cs) ← readFraction cs
  let (east, cs) ← readOffset (trimStart cs)
  if hour < 24 ∧ minute < 60 ∧ second ≤ 60 ∧ -86400 < east ∧ east < 86400 ∧ trimStart cs = [] then
    let (second, nanos) := if second = 60 then (59, nanos + 1000000000) else (second, nanos)
    ofUnix? (date.toDays * 86400 + hour * 3600 + minute * 60 + second - east) nanos
  else none

end Timestamp
end DocQuery.Calendar
