/-!
# Length in sixteen-bit units

A character outside the basic plane takes two sixteen-bit units, every other character one.
-/

namespace DocQuery.Text

def unitCount (c : Char) : Nat := if c.toNat < 0x10000 then 1 else 2

def unitsOf : List Char → Nat
  | [] => 0
  | c :: cs => unitCount c + unitsOf cs

def units16 (s : String) : Nat := unitsOf s.toList

end DocQuery.Text
