import DocQuery.Pattern.Syntax
import DocQuery.Text.Blank
import DocQuery.Text.Hex
import DocQuery.Text.Decimal
import DocQuery.Text.Letter

/-!
# Reading a pattern

The grammar has groups, named groups, inline flags, bracketed classes with set operations, counted
repetitions and escapes. It has no back references and no conditions that look around. Whatever does
not follow the grammar is refused; nothing falls back to a literal reading. In verbose mode blanks
and comments between the parts are passed over.
-/

namespace DocQuery.Pattern

open Text

def nestLimit : Nat := 250

namespace Parser

def skipAux : (fuel : Nat) → List Char → List Char
  | 0, cs => cs
  | _, [] => []
  | fuel + 1, c :: rest =>
    if isBlank c then skipAux fuel rest
    else if c = '#' then skipAux fuel ((rest.dropWhile (· ≠ '\n')).drop 1)
    else c :: rest

/-- Passes over blanks and comments in verbose mode, and over nothing otherwise. -/
def skip (verbose : Bool) (cs : List Char) : List Char :=
  if verbose then skipAux cs.length cs else cs

/-! ## Escapes -/

/-- The characters that have a meaning of their own. -/
def isMeta (c : Char) : Bool := "\\.+*?()|[]\x7b\x7d^$#&-~".toList.contains c

/-- The characters that stand for themselves after a backslash: all of ASCII but letters, digits and
the angle brackets. -/
def isEscapable (c : Char) : Bool :=
  isMeta c || (c.toNat < 128 && !c.isAlphanum && c != '<' && c != '>')

def charOf? (code : Nat) : Option Char :=
  if code < 0xD800 ∨ (0xE000 ≤ code ∧ code < 0x110000) then some (Char.ofNat code) else none

/-- A part of a pattern that can also stand in a class, or is told apart there. -/
inductive Primitive where
  | literal (l : Literal)
  | assertion (a : Assertion)
  | letter (c : LetterClass) (negated : Bool)
  | property (p : PropertyClass)
deriving Repr

def hexDigits? (verbose : Bool) : (count : Nat) → List Char → Option (List Char × List Char)
  | 0, cs => some ([], cs)
  | count + 1, c :: rest => do
    let _ ← hexValue? c
    let (ds, rest) ← hexDigits? verbose count (skip verbose rest)
    return (c :: ds, rest)
  | _ + 1, [] => none

def braced? (verbose : Bool) (p : Char → Bool) :
    (fuel : Nat) → List Char → Option (List Char × List Char)
  | 0, _ => none
  | fuel + 1, cs =>
    match skip verbose cs with
    | [] => none
    | '}' :: rest => some ([], rest)
    | c :: rest =>
      if p c then (braced? verbose p fuel rest).map fun (ds, rest) => (c :: ds, rest) else none

/-- A character by its code: `count` hexadecimal digits, or any number of them in braces. -/
def readHex (verbose : Bool) (count : Nat) (cs : List Char) : Option (Literal × List Char) := do
  let cs := skip verbose cs
  let (ds, asByte, rest) ← match cs with
    | '{' :: rest => do
      let (ds, rest) ← braced? verbose (fun c => (hexValue? c).isSome) (rest.length + 1) rest
      pure (ds, false, skip verbose rest)
    | cs => do
      let (ds, rest) ← hexDigits? verbose count cs
      pure (ds, decide (count = 2), rest)
  if ds = [] then none
  let c ← charOf? (← hexNumber? ds)
  return (⟨c, asByte⟩, rest)

def cutAt? (separator : List Char) : List Char → Option (List Char × List Char)
  | [] => none
  | c :: rest =>
    match separator.isPrefixOf? (c :: rest) with
    | some value => some ([], value)
    | none => (cutAt? separator rest).map fun (name, value) => (c :: name, value)

/-- The class of a property text, as in `L`, `Script=Greek` or `gc!=Nd`. -/
def propertyOf (negated : Bool) (text : List Char) : PropertyClass :=
  match cutAt? ['!', '='] text with
  | some (name, value) => ⟨String.ofList name, some (String.ofList value), !negated⟩
  | none =>
    match cutAt? [':'] text with
    | some (name, value) => ⟨String.ofList name, some (String.ofList value), negated⟩
    | none =>
      match cutAt? ['='] text with
      | some (name, value) => ⟨String.ofList name, some (String.ofList value), negated⟩
      | none => ⟨String.ofList text, none, negated⟩

def readProperty (verbose negated : Bool) (cs : List Char) :
    Option (PropertyClass × List Char) := do
  match skip verbose cs with
  | '{' :: rest =>
    let (text, rest) ← braced? verbose (fun _ => true) (rest.length + 1) rest
    return (propertyOf negated text, rest)
  | '\\' :: _ => none
  | c :: rest => return (⟨String.ofList [c], none, negated⟩, skip verbose rest)
  | [] => none

def isBoundaryChar (c : Char) : Bool := c.isAlpha || c = '-'

def boundaryOf? : String → Option Assertion
  | "start" => some .wordStart
  | "end" => some .wordEnd
  | "start-half" => some .wordStartHalf
  | "end-half" => some .wordEndHalf
  | _ => none

/-- A word boundary, after its letter. A name in braces may follow; braces that cannot hold a name
are left to a repetition. -/
def readBoundary (verbose : Bool) (cs : List Char) : Option (Assertion × List Char) :=
  match cs with
  | '{' :: rest =>
    match skip verbose rest with
    | [] => none
    | c :: inner =>
      if isBoundaryChar c then do
        let (name, rest) ← braced? verbose isBoundaryChar (inner.length + 2) (c :: inner)
        return (← boundaryOf? (String.ofList name), rest)
      else some (.wordBoundary, cs)
  | cs => some (.wordBoundary, cs)

def readEscape (verbose : Bool) : List Char → Option (Primitive × List Char)
  | [] => none
  | c :: rest =>
    let literal (c : Char) : Option (Primitive × List Char) := some (.literal ⟨c, false⟩, rest)
    match c with
    | 'x' => (readHex verbose 2 rest).map fun (l, rest) => (.literal l, rest)
    | 'u' => (readHex verbose 4 rest).map fun (l, rest) => (.literal l, rest)
    | 'U' => (readHex verbose 8 rest).map fun (l, rest) => (.literal l, rest)
    | 'p' => (readProperty verbose false rest).map fun (p, rest) => (.property p, rest)
    | 'P' => (readProperty verbose true rest).map fun (p, rest) => (.property p, rest)
    | 'd' => some (.letter .digit false, rest)
    | 'D' => some (.letter .digit true, rest)
    | 's' => some (.letter .space false, rest)
    | 'S' => some (.letter .space true, rest)
    | 'w' => some (.letter .word false, rest)
    | 'W' => some (.letter .word true, rest)
    | 'a' => literal '\x07'
    | 'f' => literal '\x0c'
    | 't' => literal '\t'
    | 'n' => literal '\n'
    | 'r' => literal '\r'
    | 'v' => literal '\x0b'
    | 'A' => some (.assertion .textStart, rest)
    | 'z' => some (.assertion .textEnd, rest)
    | 'b' => (readBoundary verbose rest).map fun (a, rest) => (.assertion a, rest)
    | 'B' => some (.assertion .notWordBoundary, rest)
    | '<' => some (.assertion .wordStart, rest)
    | '>' => some (.assertion .wordEnd, rest)
    | c => if isEscapable c then literal c else none

/-! ## Bracketed classes -/

def readClassPrimitive (verbose : Bool) : List Char → Option (Primitive × List Char)
  | '\\' :: rest => readEscape verbose rest
  | c :: rest => some (.literal ⟨c, false⟩, rest)
  | [] => none

def Primitive.item? : Primitive → Option ClassSet
  | .literal l => some (.literal l)
  | .letter c negated => some (.letter c negated)
  | .property p => some (.property p)
  | .assertion _ => none

def Primitive.literal? : Primitive → Option Literal
  | .literal l => some l
  | _ => none

/-- The character that follows the first one of a text, seen past blanks in verbose mode. -/
def peekPast (verbose : Bool) (rest : List Char) : Option Char :=
  if verbose then
    match rest.dropWhile isBlank with
    | '#' :: inner => ((inner.dropWhile isBlank).head?).or rest.head?
    | c :: _ => some c
    | [] => rest.head?
  else rest.head?

def readClassRange (verbose : Bool) (cs : List Char) : Option (ClassSet × List Char) := do
  let (first, rest) ← readClassPrimitive verbose cs
  let rest := skip verbose rest
  match rest with
  | [] => none
  | '-' :: tail =>
    if peekPast verbose tail = some ']' ∨ peekPast verbose tail = some '-' then
      return (← first.item?, rest)
    else
      let (second, rest) ← readClassPrimitive verbose (skip verbose tail)
      let low ← first.literal?
      let high ← second.literal?
      if low.char ≤ high.char then return (.range low high, rest) else none
  | rest => return (← first.item?, rest)

def readAsciiClass (cs : List Char) : Option (ClassSet × List Char) := do
  let rest ← List.isPrefixOf? [':'] cs
  let (negated, rest) := match rest with
    | '^' :: rest => (true, rest)
    | rest => (false, rest)
  let name := rest.takeWhile (· ≠ ':')
  let rest ← List.isPrefixOf? [':', ']'] (rest.dropWhile (· ≠ ':'))
  return (.ascii (← AsciiClass.ofName? (String.ofList name)) negated, rest)

/-- The start of a class after its bracket: whether it is negated, and the hyphens or the closing
bracket that stand for themselves there. -/
def readClassStart (verbose : Bool) (cs : List Char) :
    Option (Bool × List ClassSet × List Char) := do
  let cs := skip verbose cs
  let (negated, cs) := match cs with
    | '^' :: rest => (true, skip verbose rest)
    | cs => (false, cs)
  let (hyphens, cs) := leading cs.length cs
  let literal (c : Char) : ClassSet := .literal ⟨c, false⟩
  match hyphens, cs with
  | _, [] => none
  | 0, ']' :: rest =>
    match skip verbose rest with
    | [] => none
    | rest => return (negated, [literal ']'], rest)
  | n, cs => return (negated, List.replicate n (literal '-'), cs)
where
  /-- Counts the hyphens at the front. -/
  leading : (fuel : Nat) → List Char → Nat × List Char
    | 0, cs => (0, cs)
    | fuel + 1, '-' :: rest =>
      let (n, rest) := leading fuel (skip verbose rest)
      (n + 1, rest)
    | _ + 1, cs => (0, cs)

/-- What has been read of a class: the left side of an operation, if one is open, and the items read
since, the newest first. -/
structure ClassState where
  left : Option (ClassOp × ClassSet)
  items : List ClassSet

namespace ClassState

def push (s : ClassState) (item : ClassSet) : ClassState := { s with items := item :: s.items }

def close (s : ClassState) : ClassSet :=
  let right := ClassSet.ofItems s.items.reverse
  match s.left with
  | some (o, left) => .op o left right
  | none => right

def openOp (s : ClassState) (o : ClassOp) : ClassState := ⟨some (o, s.close), []⟩

end ClassState

def readClassAux (verbose : Bool) :
    (fuel : Nat) → ClassState → List Char → Option (ClassSet × List Char)
  | 0, _, _ => none
  | fuel + 1, s, cs =>
    match skip verbose cs with
    | [] => none
    | '[' :: rest =>
      match readAsciiClass rest with
      | some (item, rest) => readClassAux verbose fuel (s.push item) rest
      | none => do
        let (negated, items, rest) ← readClassStart verbose rest
        let (inner, rest) ← readClassAux verbose fuel ⟨none, items.reverse⟩ rest
        readClassAux verbose fuel (s.push (.bracketed negated inner)) rest
    | ']' :: rest => some (s.close, rest)
    | '&' :: '&' :: rest => readClassAux verbose fuel (s.openOp .intersection) rest
    | '-' :: '-' :: rest => readClassAux verbose fuel (s.openOp .difference) rest
    | '~' :: '~' :: rest => readClassAux verbose fuel (s.openOp .symmetricDifference) rest
    | cs => do
      let (item, rest) ← readClassRange verbose cs
      readClassAux verbose fuel (s.push item) rest

def readClass (verbose : Bool) (cs : List Char) : Option (Ast × List Char) := do
  let (negated, items, rest) ← readClassStart verbose cs
  let (s, rest) ← readClassAux verbose (rest.length + 1) ⟨none, items.reverse⟩ rest
  return (.bracketed negated s, rest)

/-! ## Repetitions -/

def readCount (verbose : Bool) (cs : List Char) : Option Nat × List Char :=
  let (ds, rest) := digits cs.length (trimStart cs)
  let rest := trimStart rest
  if ds ≠ [] ∧ decimalValue ds < 0x100000000 then (some (decimalValue ds), rest) else (none, rest)
where
  digits : (fuel : Nat) → List Char → List Char × List Char
    | 0, cs => ([], cs)
    | fuel + 1, c :: rest =>
      if isDecimal c then
        let (ds, rest) := digits fuel (skip verbose rest)
        (c :: ds, rest)
      else ([], c :: rest)
    | _ + 1, [] => ([], [])

def readBounds (verbose : Bool) (cs : List Char) :
    Option ((Nat × Option Nat) × List Char) := do
  let cs := skip verbose cs
  if cs = [] then none
  let (least, rest) := readCount verbose cs
  let least ← least
  match rest with
  | ',' :: rest =>
    match skip verbose rest with
    | '}' :: rest => return ((least, none), rest)
    | rest =>
      let (most, rest) := readCount verbose rest
      let most ← most
      let rest ← List.isPrefixOf? ['}'] rest
      if least ≤ most then return ((least, some most), rest) else none
  | '}' :: rest => return ((least, some least), rest)
  | _ => none

/-- Whether a repetition prefers more to less; a question mark behind it says the contrary. -/
def readGreed : List Char → Bool × List Char
  | '?' :: rest => (false, rest)
  | cs => (true, cs)

/-! ## Groups -/

/-- Flags up to a colon or a closing parenthesis, which is left in the text. -/
def readFlagsAux : (fuel : Nat) → (negated : Bool) → (last : Option Char) → FlagChange →
    List Char → Option (FlagChange × List Char)
  | 0, _, _, _, _ => none
  | fuel + 1, negated, last, f, cs =>
    match cs with
    | [] => none
    | c :: rest =>
      if c = ':' ∨ c = ')' then (if last = some '-' then none else some (f, cs))
      else if c = '-' then
        if negated then none else readFlagsAux fuel true (some c) f rest
      else do
        let flag ← Flag.ofChar? c
        if flag ∈ f.on ∨ flag ∈ f.off then none
        let f := if negated then { f with off := flag :: f.off } else { f with on := flag :: f.on }
        readFlagsAux fuel negated (some c) f rest

def isNameChar (first : Bool) (c : Char) : Bool :=
  c = '_' || isLetter c ||
    (!first && (c = '.' || c = '[' || c = ']' || isNumeral c))

def readName (cs : List Char) : Option (String × List Char) :=
  let name := cs.takeWhile (· ≠ '>')
  match name, cs.dropWhile (· ≠ '>') with
  | first :: others, '>' :: rest =>
    if isNameChar true first ∧ others.all (isNameChar false) then
      some (String.ofList name, rest)
    else none
  | _, _ => none

/-- What has been read of the innermost open group: its finished alternatives and the items of the
current one, the newest first. -/
structure Level where
  alternatives : List Ast
  items : List Ast

namespace Level

def empty : Level := ⟨[], []⟩

def push (l : Level) (a : Ast) : Level := { l with items := a :: l.items }

def next (l : Level) : Level := ⟨Ast.ofItems l.items.reverse :: l.alternatives, []⟩

def close (l : Level) : Ast := Ast.ofAlternatives l.next.alternatives.reverse

/-- Repeats the newest item. Flags cannot be repeated. -/
def repeat? (l : Level) (least : Nat) (most : Option Nat) (greedy : Bool) : Option Level :=
  match l.items with
  | [] => none
  | .flags _ :: _ => none
  | a :: items => some { l with items := .repetition least most greedy a :: items }

end Level

/-- What kind of a group it is: one that changes flags, or one that is numbered. -/
inductive GroupKind where
  | plain (f : FlagChange)
  | capture (index : Nat)

namespace GroupKind

def wrap : GroupKind → Ast → Ast
  | .plain f, a => .group f a
  | .capture index, a => .capture index a

def verbose? : GroupKind → Option Bool
  | .plain f => f.value? .verbose
  | .capture _ => none

end GroupKind

/-- A group that is still open: what stood before it, its kind, and whether the text around it is
verbose. -/
structure OpenGroup where
  before : Level
  kind : GroupKind
  verbose : Bool

/-- A pattern that has been read in part, with the names of groups and the number of captures. -/
structure State where
  verbose : Bool
  names : List String
  captures : Nat
  level : Level
  groups : List OpenGroup

namespace State

def start : State := ⟨false, [], 0, .empty, []⟩

def push (s : State) (a : Ast) : State := { s with level := s.level.push a }

def openGroup (s : State) (kind : GroupKind) : State :=
  { s with
    verbose := kind.verbose?.getD s.verbose
    level := .empty
    groups := ⟨s.level, kind, s.verbose⟩ :: s.groups }

def openCapture (s : State) : State :=
  { s with captures := s.captures + 1 }.openGroup (.capture (s.captures + 1))

def closeGroup? (s : State) : Option State :=
  match s.groups with
  | [] => none
  | g :: groups =>
    some { s with
      verbose := g.verbose
      level := g.before.push (g.kind.wrap s.level.close)
      groups := groups }

end State

/-- The marks of conditions on what stands around a position, which are not supported. -/
def lookarounds : List (List Char) := [['?', '='], ['?', '!'], ['?', '<', '='], ['?', '<', '!']]

def readGroup (s : State) (cs : List Char) : Option (State × List Char) := do
  let cs := skip s.verbose cs
  if lookarounds.any fun mark => (mark.isPrefixOf? cs).isSome then none
  match (List.isPrefixOf? ['?', 'P', '<'] cs).or (List.isPrefixOf? ['?', '<'] cs) with
  | some rest =>
    let (name, rest) ← readName rest
    if name ∈ s.names then none
    return ({ s with names := name :: s.names }.openCapture, rest)
  | none =>
    match cs with
    | '?' :: rest =>
      let (f, rest) ← readFlagsAux (rest.length + 1) false none ⟨[], []⟩ rest
      match rest with
      | ':' :: rest => return (s.openGroup (.plain f), rest)
      | ')' :: rest =>
        if f = ⟨[], []⟩ then none
        return ({ s.push (.flags f) with verbose := (f.value? .verbose).getD s.verbose }, rest)
      | _ => none
    | cs => return (s.openCapture, cs)

def repeatItem (s : State) (least : Nat) (most : Option Nat) (cs : List Char) :
    Option (State × List Char) := do
  let (greedy, rest) := readGreed cs
  let level ← s.level.repeat? least most greedy
  return ({ s with level := level }, rest)

def step (s : State) : List Char → Option (State × List Char)
  | [] => none
  | '(' :: rest => readGroup s rest
  | ')' :: rest => s.closeGroup?.map (·, rest)
  | '|' :: rest => some ({ s with level := s.level.next }, rest)
  | '[' :: rest => (readClass s.verbose rest).map fun (a, rest) => (s.push a, rest)
  | '?' :: rest => repeatItem s 0 (some 1) rest
  | '*' :: rest => repeatItem s 0 none rest
  | '+' :: rest => repeatItem s 1 none rest
  | '{' :: rest => do
    let ((least, most), rest) ← readBounds s.verbose rest
    repeatItem s least most (skip s.verbose rest)
  | '\\' :: rest => do
    let (p, rest) ← readEscape s.verbose rest
    let a : Ast := match p with
      | .literal l => .literal l
      | .assertion a => .assertion a
      | .letter c negated => .letter c negated
      | .property p => .property p
    return (s.push a, rest)
  | '.' :: rest => some (s.push .dot, rest)
  | '^' :: rest => some (s.push (.assertion .lineStart), rest)
  | '$' :: rest => some (s.push (.assertion .lineEnd), rest)
  | c :: rest => some (s.push (.literal ⟨c, false⟩), rest)

def readAux : (fuel : Nat) → State → List Char → Option Ast
  | 0, _, _ => none
  | fuel + 1, s, cs =>
    match skip s.verbose cs with
    | [] => if s.groups.isEmpty then some s.level.close else none
    | cs =>
      match step s cs with
      | some (s, rest) => readAux fuel s rest
      | none => none

end Parser

/-- The pattern that a text denotes, unless it is nested too deep. -/
def Ast.parse? (text : List Char) : Option Ast := do
  let a ← Parser.readAux (text.length + 1) .start text
  if a.depth ≤ nestLimit then return a else none

end DocQuery.Pattern
