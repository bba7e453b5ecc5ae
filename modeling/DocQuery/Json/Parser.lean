import DocQuery.Json.Basic
import DocQuery.Text.Hex
import DocQuery.Text.Decimal

/-!
# Reading JSON text

The strict grammar: four blanks, no comments, no control characters in strings, escapes of
surrogates only in pairs. Containers may be nested `maxDepth` deep. Of members with equal keys the
last value stands at the place of the first. A number too large for a double is refused.
-/

namespace DocQuery.Json

open Numeric Text

/-- A reader takes what it can from the front of the text and gives back the rest. -/
abbrev Reader (α : Type) := List Char → Option (α × List Char)

def maxDepth : Nat := 127

def isGap (c : Char) : Bool := c = ' ' ∨ c = '\t' ∨ c = '\n' ∨ c = '\r'

def skipGaps (cs : List Char) : List Char := cs.dropWhile isGap

/-! ## Strings -/

def readUnit : Reader Nat
  | a :: b :: c :: d :: rest => (hexNumber? [a, b, c, d]).map (·, rest)
  | _ => none

/-- The character of an escape whose backslash and `u` have been read. -/
def readUnicodeEscape : Reader Char := fun cs => do
  let (high, rest) ← readUnit cs
  if 0xD800 ≤ high ∧ high < 0xDC00 then
    match rest with
    | '\\' :: 'u' :: rest =>
      let (low, rest) ← readUnit rest
      if 0xDC00 ≤ low ∧ low < 0xE000 then
        return (Char.ofNat (0x10000 + (high - 0xD800) * 0x400 + (low - 0xDC00)), rest)
      else none
    | _ => none
  else if 0xDC00 ≤ high ∧ high < 0xE000 then none
  else return (Char.ofNat high, rest)

def readEscape : Reader Char
  | '"' :: rest => some ('"', rest)
  | '\\' :: rest => some ('\\', rest)
  | '/' :: rest => some ('/', rest)
  | 'b' :: rest => some ('\x08', rest)
  | 'f' :: rest => some ('\x0c', rest)
  | 'n' :: rest => some ('\n', rest)
  | 'r' :: rest => some ('\r', rest)
  | 't' :: rest => some ('\t', rest)
  | 'u' :: rest => readUnicodeEscape rest
  | _ => none

/-- The characters up to the closing quotation mark. The fuel counts characters of the result and
the mark itself. -/
def readStringAux : (fuel : Nat) → (read : List Char) → Reader String
  | 0, _, _ => none
  | fuel + 1, read, cs =>
    match cs with
    | '"' :: rest => some (String.ofList read.reverse, rest)
    | '\\' :: rest =>
      match readEscape rest with
      | some (c, rest) => readStringAux fuel (c :: read) rest
      | none => none
    | c :: rest => if c.toNat < 0x20 then none else readStringAux fuel (c :: read) rest
    | [] => none

def readString : Reader String := fun cs => readStringAux cs.length [] cs

/-! ## Numbers -/

def readDigits : Reader (List Char) := fun cs =>
  match cs.takeWhile isDecimal with
  | [] => none
  | ds => some (ds, cs.dropWhile isDecimal)

/-- The digits before the point, where a zero stands alone. -/
def readWhole : Reader (List Char) := fun cs => do
  let (ds, rest) ← readDigits cs
  match ds with
  | '0' :: _ :: _ => none
  | _ => return (ds, rest)

def readFraction : Reader (Option (List Char))
  | '.' :: rest => (readDigits rest).map fun (ds, rest) => (some ds, rest)
  | cs => some (none, cs)

def readExponent : Reader (Option Int)
  | c :: rest =>
    if c = 'e' ∨ c = 'E' then do
      let (negative, rest) := match rest with
        | '-' :: rest => (true, rest)
        | '+' :: rest => (false, rest)
        | rest => (false, rest)
      let (ds, rest) ← readDigits rest
      let n : Int := decimalValue ds
      return (some (if negative then -n else n), rest)
    else some (none, c :: rest)
  | [] => some (none, [])

/-- What the parts of a number denote: an integer if there is neither fraction nor exponent and the
integer is in range and no negative zero, otherwise the nearest double. -/
def numberOf? (negative : Bool) (whole : List Char) (fraction : Option (List Char))
    (exponent : Option Int) : Option Number :=
  let places := fraction.getD []
  let digits := decimalValue (whole ++ places)
  let float := (Finite64.ofDecimal? negative digits (exponent.getD 0 - places.length)).map .float
  match fraction, exponent with
  | none, none =>
    if negative ∧ digits = 0 then float
    else
      match Integer.ofInt? (if negative then -digits else digits) with
      | some n => some (.int n)
      | none => float
  | _, _ => float

def readNumber : Reader Number := fun cs => do
  let (negative, cs) := match cs with
    | '-' :: rest => (true, rest)
    | cs => (false, cs)
  let (whole, cs) ← readWhole cs
  let (fraction, cs) ← readFraction cs
  let (exponent, cs) ← readExponent cs
  return (← numberOf? negative whole fraction exponent, cs)

/-! ## Values -/

def readScalar : Reader Json := fun cs =>
  match cs with
  | 'n' :: rest => (List.isPrefixOf? ['u', 'l', 'l'] rest).map (.null, ·)
  | 't' :: rest => (List.isPrefixOf? ['r', 'u', 'e'] rest).map (.bool true, ·)
  | 'f' :: rest => (List.isPrefixOf? ['a', 'l', 's', 'e'] rest).map (.bool false, ·)
  | '"' :: rest => (readString rest).map fun (s, rest) => (.str s, rest)
  | cs => (readNumber cs).map fun (n, rest) => (.num n, rest)

def readElementsAux (element : Reader Json) : (fuel : Nat) → Reader (List Json)
  | 0, _ => none
  | fuel + 1, cs => do
    let (e, rest) ← element cs
    match skipGaps rest with
    | ',' :: rest =>
      let (es, rest) ← readElementsAux element fuel rest
      return (e :: es, rest)
    | ']' :: rest => return ([e], rest)
    | _ => none

def readElements (element : Reader Json) : Reader (List Json) := fun cs =>
  match skipGaps cs with
  | ']' :: rest => some ([], rest)
  | cs => readElementsAux element cs.length cs

def readMembersAux (element : Reader Json) : (fuel : Nat) → Reader (List (String × Json))
  | 0, _ => none
  | fuel + 1, cs => do
    match skipGaps cs with
    | '"' :: rest =>
      let (k, rest) ← readString rest
      match skipGaps rest with
      | ':' :: rest =>
        let (v, rest) ← element rest
        match skipGaps rest with
        | ',' :: rest =>
          let (ms, rest) ← readMembersAux element fuel rest
          return ((k, v) :: ms, rest)
        | '}' :: rest => return ([(k, v)], rest)
        | _ => none
      | _ => none
    | _ => none

def readMembers (element : Reader Json) : Reader (List (String × Json)) := fun cs =>
  match skipGaps cs with
  | '}' :: rest => some ([], rest)
  | cs => readMembersAux element cs.length cs

/-- A value with containers at most `depth` deep, after blanks. -/
def readValueAux : (depth : Nat) → Reader Json
  | 0, cs =>
    match skipGaps cs with
    | '[' :: _ => none
    | '{' :: _ => none
    | cs => readScalar cs
  | depth + 1, cs =>
    match skipGaps cs with
    | '[' :: rest => (readElements (readValueAux depth) rest).map fun (es, rest) => (.arr es, rest)
    | '{' :: rest =>
      (readMembers (readValueAux depth) rest).map fun (ms, rest) => (ofMembers ms, rest)
    | cs => readScalar cs

def readValue : Reader Json := readValueAux maxDepth

/-- The value that a text denotes, with nothing but blanks around it. -/
def parse? (text : String) : Option Json := do
  let (j, rest) ← readValue text.toList
  if skipGaps rest = [] then return j else none

end DocQuery.Json
