import DocQuery.Pattern.Footprint
import DocQuery.Pattern.Match
import DocQuery.Pattern.Meaning

/-!
# Searching for a pattern
-/

namespace DocQuery.Pattern

/-- The expression of a pattern text, unless the text is no pattern or would take too much room. -/
def compile? (m : Modes) (text : List Char) : Option Expr := do
  let (e, _) ← (← Ast.parse? text).expr? m
  if e.fits then return e else none

end DocQuery.Pattern
