import DocQuery.Text.CharSet
import DocQuery.Text.Hex

/-!
# Tables of characters

A table of a character property is written in rows of hexadecimal intervals, `30-39 B2 660-669`, in
increasing order. Both ends of an interval belong to it, and a single number stands for the
interval that holds it alone.
-/

namespace DocQuery.Text

def parts (separator : Char) : List Char → List (List Char)
  | [] => [[]]
  | c :: cs =>
    match parts separator cs with
    | [] => []
    | p :: ps => if c = separator then [] :: p :: ps else (c :: p) :: ps

def interval? (entry : List Char) : Option Interval :=
  match parts '-' entry with
  | [single] => (hexNumber? single).map fun n => (n, n)
  | [low, high] => do return (← hexNumber? low, ← hexNumber? high)
  | _ => none

def CharSet.ofTable (rows : List String) : CharSet :=
  ⟨rows.flatMap fun row => (parts ' ' row.toList).filterMap interval?⟩

structure NamedSet where
  names : List String
  set : CharSet
deriving DecidableEq, Repr

namespace NamedSet

def find? (table : List NamedSet) (name : String) : Option CharSet :=
  (table.find? (·.names.contains name)).map (·.set)

def unionOf (table : List NamedSet) (names : List String) : CharSet :=
  .unions (names.filterMap (find? table))

end NamedSet
end DocQuery.Text
