import DocQuery.Json.Basic
import DocQuery.Numeric.Style
import DocQuery.Text.Hex
import DocQuery.Text.Decimal

/-!
# Compact JSON text

No blanks, members in order. In a string the quotation mark, the backslash and the characters below
the space are escaped, and nothing else is.
-/

namespace DocQuery.Json

open Numeric Text

/-- Numbers are positional from `0.00001` up to sixteen digits before the point, and an exponent
always has its sign. -/
def numberStyle : Style := ⟨-5, 15, "+"⟩

def Number.chars : Number → List Char
  | .int n => intChars n.val
  | .float x => numberStyle.writeBinary64 x.val

def escapeChar (c : Char) : List Char :=
  if c = '"' then ['\\', '"']
  else if c = '\\' then ['\\', '\\']
  else if c.toNat < 0x20 then
    match c.toNat with
    | 0x08 => ['\\', 'b']
    | 0x09 => ['\\', 't']
    | 0x0A => ['\\', 'n']
    | 0x0C => ['\\', 'f']
    | 0x0D => ['\\', 'r']
    | n => '\\' :: 'u' :: hexDigits 4 n
  else [c]

def quotedChars (s : String) : List Char := '"' :: (s.toList.flatMap escapeChar ++ ['"'])

mutual

def chars : Json → List Char
  | .null => ['n', 'u', 'l', 'l']
  | .bool true => ['t', 'r', 'u', 'e']
  | .bool false => ['f', 'a', 'l', 's', 'e']
  | .num n => n.chars
  | .str s => quotedChars s
  | .arr elements => '[' :: (elementChars elements ++ [']'])
  | .obj members => '{' :: (memberChars members ++ ['}'])

def elementChars : List Json → List Char
  | [] => []
  | [e] => e.chars
  | e :: es => e.chars ++ ',' :: elementChars es

def memberChars : List (String × Json) → List Char
  | [] => []
  | [(k, v)] => quotedChars k ++ ':' :: v.chars
  | (k, v) :: ms => quotedChars k ++ ':' :: (v.chars ++ ',' :: memberChars ms)

end

def compact (j : Json) : String := String.ofList j.chars

def quote (s : String) : String := String.ofList (quotedChars s)

end DocQuery.Json
