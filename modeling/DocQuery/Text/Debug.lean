import DocQuery.Text.Hex
import DocQuery.Text.Unprintable

/-!
# Texts in messages for developers

A text in double quotes in which quotes, backslashes and everything that does not show are escaped,
and a list of such texts.
-/

namespace DocQuery.Text

def hexChars (n : Nat) : List Char :=
  match (hexDigits 8 n).dropWhile (· = '0') with
  | [] => ['0']
  | ds => ds

def debugChar (c : Char) : List Char :=
  if c = '\x00' then ['\\', '0']
  else if c = '\t' then ['\\', 't']
  else if c = '\r' then ['\\', 'r']
  else if c = '\n' then ['\\', 'n']
  else if c = '"' ∨ c = '\\' then ['\\', c]
  else if isUnprintable c then ['\\', 'u', '{'] ++ hexChars c.toNat ++ ['}']
  else [c]

def debugChars (s : String) : List Char := '"' :: (s.toList.flatMap debugChar ++ ['"'])

def debugList (ss : List String) : String :=
  "[" ++ ", ".intercalate (ss.map fun s => String.ofList (debugChars s)) ++ "]"

end DocQuery.Text
