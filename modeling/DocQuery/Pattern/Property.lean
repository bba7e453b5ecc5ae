import DocQuery.Pattern.Syntax
import DocQuery.Text.Edition
import DocQuery.Text.Segment

/-!
# Character properties by name

A property is named alone, as a trait that a character has or has not, as a general category or as a
writing system, or as a pair of a property and its value. Case, blanks, hyphens, underscores and an
`is` in front do not matter.
-/

namespace DocQuery.Pattern

open Text

namespace Property

/-- A name without what does not matter. The name `isc` keeps its front, since it is the short name
of a property of its own. -/
def normalize (name : String) : String :=
  let (isFront, cs) := match name.toList with
    | i :: s :: rest =>
      if i.toLower = 'i' ∧ s.toLower = 's' then (true, rest) else (false, name.toList)
    | cs => (false, cs)
  let plain := (cs.filter fun c => c.toNat < 128 ∧ c ≠ ' ' ∧ c ≠ '_' ∧ c ≠ '-').map Char.toLower
  if isFront ∧ plain = ['c'] then "isc" else String.ofList plain

def category? (name : String) : Option CharSet :=
  (NamedSet.find? categoryGroups name).or (NamedSet.find? categories name)

def named? (name : String) : Option CharSet :=
  ((NamedSet.find? traits name).or (category? name)).or (NamedSet.find? writingSystems name)

def valued? (name value : String) : Option CharSet :=
  match name with
  | "generalcategory" | "gc" => category? value
  | "script" | "sc" => NamedSet.find? writingSystems value
  | "scriptextensions" | "scx" => usedWith? value
  | "age" => edition? value
  | "graphemeclusterbreak" | "gcb" => NamedSet.find? clusterBreaks value
  | "wordbreak" | "wb" => NamedSet.find? wordBreaks value
  | "sentencebreak" | "sb" => NamedSet.find? sentenceBreaks value
  | _ => none

end Property

/-- The characters that a property class names, before it is negated. -/
def PropertyClass.property? (p : PropertyClass) : Option CharSet :=
  let name := Property.normalize p.name
  match p.value with
  | none => Property.named? name
  | some value => Property.valued? name (Property.normalize value)

end DocQuery.Pattern
