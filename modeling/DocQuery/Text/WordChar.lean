import DocQuery.Text.Property

/-!
# Characters of words

Letters, marks, decimal digits, connecting punctuation and the two joiners.
-/

namespace DocQuery.Text

def wordChars : CharSet :=
  .unions [alphabetic, markCategories, ofCategories ["nd", "pc"], joinControl]

def isWordChar (c : Char) : Bool := wordChars.contains c

end DocQuery.Text
