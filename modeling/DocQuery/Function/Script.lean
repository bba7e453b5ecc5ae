import DocQuery.Json.Printer
import DocQuery.Text.Units

/-!
# Values in the store's script language

How the store's scripts see a JSON value: the name of its type, when two values are identical, and
the text a value turns into where a text is needed.
-/

namespace DocQuery.Script

open Numeric Text

def typeOf : Json → String
  | .null => "object"
  | .arr _ => "object"
  | .obj _ => "object"
  | .bool _ => "boolean"
  | .num _ => "number"
  | .str _ => "string"

/-- Identity of values. Numbers are compared as doubles; containers are identical to nothing. -/
def identical : Json → Json → Bool
  | .null, .null => true
  | .bool a, .bool b => a = b
  | .num a, .num b => a.toBinary64.numEq b.toBinary64
  | .str a, .str b => a = b
  | _, _ => false

/-- The text of a number: whole numbers below `10 ^ 21` have all their digits, and the others are
written as in JSON. -/
def numberText (n : Json.Number) : List Char :=
  let x := n.toBinary64
  match x.wholeMagnitude? with
  | some m =>
    if m < 1000000000000000000000 then
      (if x.negative then '-' :: decimalChars m else decimalChars m)
    else n.chars
  | none => n.chars

mutual

def text : Json → List Char
  | .null => ['n', 'u', 'l', 'l']
  | .bool b => if b then ['t', 'r', 'u', 'e'] else ['f', 'a', 'l', 's', 'e']
  | .num n => numberText n
  | .str s => s.toList
  | .arr elements => listText elements
  | .obj _ => "[object Object]".toList

/-- The texts of elements with commas between them; `null` leaves its place empty. -/
def listText : List Json → List Char
  | [] => []
  | [.null] => []
  | [e] => text e
  | .null :: es => ',' :: listText es
  | e :: es => text e ++ ',' :: listText es

end

end DocQuery.Script
