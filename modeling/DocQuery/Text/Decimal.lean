/-!
# Decimal digits

The ten digits `0 … 9` and the numbers that they spell.
-/

namespace DocQuery.Text

def isDecimal (c : Char) : Bool := '0' ≤ c ∧ c ≤ '9'

def decimalValue (ds : List Char) : Nat := ds.foldl (fun n c => 10 * n + (c.toNat - '0'.toNat)) 0

def decimalChars (n : Nat) : List Char := Nat.toDigits 10 n

def decimalText (n : Nat) : String := String.ofList (decimalChars n)

def intChars : Int → List Char
  | .ofNat n => decimalChars n
  | .negSucc n => '-' :: decimalChars (n + 1)

end DocQuery.Text
