import DocQuery.Numeric.Shortest
import DocQuery.Text.Decimal

/-!
# How a decimal is written

A decimal is written positionally while its leading power of ten stays within bounds, and with an
exponent beyond them. The bounds and the spelling of the exponent are the fields of a `Style`.
-/

namespace DocQuery.Numeric

open Text

structure Style where
  /-- The least leading power of ten that is written positionally. -/
  lowest : Int
  /-- The greatest one. -/
  highest : Int
  /-- Written before the digits of an exponent that is not negative. -/
  plus : String
deriving Repr

namespace Style

/-- Digits before and after the point, with at least one on either side. -/
def positional (d : Decimal) : List Char :=
  let ds := decimalChars d.digits
  match d.power with
  | .ofNat p => ds ++ List.replicate p '0' ++ ['.', '0']
  | .negSucc p =>
    let places := p + 1
    if places < ds.length then
      ds.take (ds.length - places) ++ '.' :: ds.drop (ds.length - places)
    else '0' :: '.' :: (List.replicate (places - ds.length) '0' ++ ds)

/-- One digit, the others after a point if there are any, and the exponent. -/
def scientific (s : Style) (d : Decimal) : List Char :=
  let fraction := match decimalChars d.digits with
    | first :: [] => [first]
    | first :: rest => first :: '.' :: rest
    | [] => []
  let exponent := match d.leading with
    | .ofNat e => s.plus.toList ++ decimalChars e
    | .negSucc e => '-' :: decimalChars (e + 1)
  fraction ++ 'e' :: exponent

def write (s : Style) (negative : Bool) (d : Decimal) : List Char :=
  let magnitude :=
    if s.lowest ≤ d.leading ∧ d.leading ≤ s.highest then positional d else s.scientific d
  if negative then '-' :: magnitude else magnitude

def writeBinary64 (s : Style) (x : Binary64) : List Char := s.write x.negative x.shortest

end Style
end DocQuery.Numeric
