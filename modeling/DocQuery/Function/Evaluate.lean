import DocQuery.Function.Basic
import DocQuery.Function.Script
import DocQuery.Pattern.Search

/-!
# Running the server-side functions locally

Each function applied to the value of a field and an operand. A pattern that does not follow the
grammar matches nothing.
-/

namespace DocQuery.ServerFunction

open Text Pattern

/-- The length that a value has in the store's scripts, if it has one. -/
def length? : Json → Option Json
  | .arr elements => some (.ofNat elements.length)
  | .str s => some (.ofNat (units16 s))
  | .obj members => Entries.get? members "length"
  | _ => none

structure PatternText where
  source : List Char
  options : List Char

namespace PatternText

/-- The pattern of an operand: an object names it under `$regex`, with the letters under `$options`,
and any other value gives its text. -/
def ofOperand? : Json → Option PatternText
  | .obj members => do
    let source ← (← Entries.get? members "$regex").str?
    let options := ((Entries.get? members "$options").bind Json.str?).getD ""
    return ⟨source.toList, options.toList⟩
  | other => some ⟨Script.text other, []⟩

/-- The expression of a pattern. The letter `y` ties a match to the start of the text; `i`, `m` and
`s` set modes, and other letters are ignored. -/
def expr? (p : PatternText) : Option Expr :=
  let source :=
    if p.options.contains 'y' then "\\A(?:".toList ++ p.source ++ [')'] else p.source
  compile?
    { ignoreCase := p.options.contains 'i'
      multiLine := p.options.contains 'm'
      dotAll := p.options.contains 's' } source

end PatternText

def matchesPattern (value operand : Json) : Bool :=
  match (PatternText.ofOperand? operand).bind PatternText.expr? with
  | some e => e.isMatch (Script.text value)
  | none => false

def eval (f : ServerFunction) (value operand : Json) : Bool :=
  match f with
  | .membership =>
    match value with
    | .arr elements => elements.any (Script.identical · operand)
    | _ => false
  | .uniformity =>
    match value with
    | .arr elements => elements.all (Script.identical · operand)
    | _ => false
  | .size => (length? value).any (Script.identical · operand)
  | .pattern => matchesPattern value operand
  | .type => operand.str? == some (Script.typeOf value)

end DocQuery.ServerFunction
