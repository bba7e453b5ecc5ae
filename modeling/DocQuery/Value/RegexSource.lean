/-!
# The source of a regular expression literal

A pattern is written between slashes. So that the literal ends where it should, a slash outside a
character class is escaped, a line terminator is written as its escape name, a backslash without a
partner is doubled, and the empty pattern is written as an empty group.
-/

namespace DocQuery

namespace RegexSource

def terminatorName? (c : Char) : Option (List Char) :=
  if c = '\n' then some ['n']
  else if c = '\r' then some ['r']
  else if c = '\u2028' then some ['u', '2', '0', '2', '8']
  else if c = '\u2029' then some ['u', '2', '0', '2', '9']
  else none

def escapedChars (c : Char) : List Char := (terminatorName? c).getD [c]

def plainChars (inClass : Bool) (c : Char) : List Char :=
  if c = '/' ∧ inClass = false then ['\\', '/']
  else
    match terminatorName? c with
    | some name => '\\' :: name
    | none => [c]

/-- Whether a class is open after a character that no backslash stands before. -/
def classAfter (inClass : Bool) (c : Char) : Bool :=
  if c = '[' then true else if c = ']' then false else inClass

/-- The source of a pattern, given whether a character class is open at its start. -/
def write : (inClass : Bool) → List Char → List Char
  | _, [] => []
  | inClass, c :: rest =>
    if c = '\\' then
      match rest with
      | [] => ['\\', '\\']
      | d :: rest => '\\' :: (escapedChars d ++ write inClass rest)
    else plainChars inClass c ++ write (classAfter inClass c) rest

end RegexSource

def regexSource (pattern : String) : String :=
  if pattern.isEmpty then "(?:)" else String.ofList (RegexSource.write false pattern.toList)

end DocQuery
