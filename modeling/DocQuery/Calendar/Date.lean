import DocQuery.Text.Blank
import DocQuery.Text.Decimal

/-!
# Dates of the proleptic Gregorian calendar

A date prints as `YYYY-MM-DD`. Years outside `0 … 9999` carry a sign and have at least four digits.
Reading is more generous than printing: blanks may stand before a number or a hyphen and at the end,
months and days may have one digit, and a year without a sign has at most four digits.
-/

namespace DocQuery.Calendar

open Text

def isLeapYear (year : Int) : Bool := year % 4 = 0 ∧ (year % 100 ≠ 0 ∨ year % 400 = 0)

/-- The number of days of a month; months outside `1 … 12` have none. -/
def daysInMonth (year : Int) (month : Nat) : Nat :=
  match month with
  | 1 | 3 | 5 | 7 | 8 | 10 | 12 => 31
  | 4 | 6 | 9 | 11 => 30
  | 2 => if isLeapYear year then 29 else 28
  | _ => 0

def minYear : Int := -262143

def maxYear : Int := 262142

structure Date where
  year : Int
  month : Nat
  day : Nat
  valid : (minYear ≤ year ∧ year ≤ maxYear) ∧ 1 ≤ day ∧ day ≤ daysInMonth year month
deriving DecidableEq, Repr

def padded (width n : Nat) : List Char :=
  let ds := decimalChars n
  List.replicate (width - ds.length) '0' ++ ds

/-- A year: four digits in the usual range, and a sign outside it. -/
def yearChars : Int → List Char
  | .ofNat y => if y ≤ 9999 then padded 4 y else '+' :: padded 4 y
  | .negSucc y => '-' :: padded 4 (y + 1)

namespace Date

def ofYmd? (year : Int) (month day : Nat) : Option Date :=
  if h : (minYear ≤ year ∧ year ≤ maxYear) ∧ 1 ≤ day ∧ day ≤ daysInMonth year month then
    some ⟨year, month, day, h⟩
  else none

def chars (d : Date) : List Char :=
  yearChars d.year ++ '-' :: (padded 2 d.month ++ '-' :: padded 2 d.day)

/-- The number of days since 1970-01-01. Years are counted from March in cycles of 400 years. -/
def toDays (d : Date) : Int :=
  let y := if d.month ≤ 2 then d.year - 1 else d.year
  let era := y / 400
  let yearOfEra := y % 400
  let monthFromMarch : Int := (d.month + 9) % 12
  let dayOfYear := (153 * monthFromMarch + 2) / 5 + d.day - 1
  let dayOfEra := yearOfEra * 365 + yearOfEra / 4 - yearOfEra / 100 + dayOfYear
  era * 146097 + dayOfEra - 719468

/-- The date a number of days after 1970-01-01, if its year is supported. -/
def ofDays? (days : Int) : Option Date :=
  let z := days + 719468
  let era := z / 146097
  let dayOfEra := z % 146097
  let yearOfEra := (dayOfEra - dayOfEra / 1460 + dayOfEra / 36524 - dayOfEra / 146096) / 365
  let dayOfYear := dayOfEra - (365 * yearOfEra + yearOfEra / 4 - yearOfEra / 100)
  let monthFromMarch := (5 * dayOfYear + 2) / 153
  let day := dayOfYear - (153 * monthFromMarch + 2) / 5 + 1
  let month := if monthFromMarch < 10 then monthFromMarch + 3 else monthFromMarch - 9
  let year := yearOfEra + era * 400
  ofYmd? (if month ≤ 2 then year + 1 else year) month.toNat day.toNat

end Date

/-! ## Reading -/

/-- One or more digits, of which at most `most` are taken. -/
def readDigits (most : Nat) (cs : List Char) : Option (List Char × List Char) :=
  match (cs.take most).takeWhile isDecimal with
  | [] => none
  | ds => some (ds, cs.drop ds.length)

def readTwoDigits (cs : List Char) : Option (Nat × List Char) := do
  let (ds, rest) ← readDigits 2 (trimStart cs)
  return (decimalValue ds, rest)

def readMark (mark : Char) (cs : List Char) : Option (List Char) :=
  match trimStart cs with
  | c :: rest => if c = mark then some rest else none
  | [] => none

/-- A year: any number of digits after a sign, at most four without one. -/
def readYear (cs : List Char) : Option (Int × List Char) :=
  match trimStart cs with
  | '-' :: rest => do
    let (ds, rest) ← readDigits rest.length rest
    return (-(decimalValue ds : Int), rest)
  | '+' :: rest => do
    let (ds, rest) ← readDigits rest.length rest
    return (decimalValue ds, rest)
  | rest => do
    let (ds, rest) ← readDigits 4 rest
    return (decimalValue ds, rest)

def Date.read (cs : List Char) : Option (Date × List Char) := do
  let (year, cs) ← readYear cs
  let cs ← readMark '-' cs
  let (month, cs) ← readTwoDigits cs
  let cs ← readMark '-' cs
  let (day, cs) ← readTwoDigits cs
  return (← Date.ofYmd? year month day, cs)

def Date.parse? (text : String) : Option Date := do
  let (d, rest) ← Date.read text.toList
  if trimStart rest = [] then return d else none

end DocQuery.Calendar
