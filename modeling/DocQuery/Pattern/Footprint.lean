import DocQuery.Pattern.Expr
import DocQuery.Pattern.Memo
import DocQuery.Pattern.Utf8

/-!
# The room that a pattern takes

A pattern is searched for with an automaton over bytes, and once more from the end with an automaton
for the reversed text. A pattern is refused if one of the two needs more than ten mebibytes. A state
takes thirty-two bytes; beyond that, a choice takes four for every state that it leads to, and a
state with several ranges takes eight for each of them. Repetitions are written out.
-/

namespace DocQuery.Pattern

open Text Utf8

/-- What an automaton takes as far as it has been built. States are numbered from zero. -/
structure Footprint where
  states : Nat
  /-- The bytes for what states refer to. -/
  links : Nat
deriving DecidableEq, Repr

namespace Footprint

/-- How many bytes an automaton may take. -/
def limit : Nat := 10 * 0x100000

def bytes (f : Footprint) : Nat := 32 * f.states + f.links

def grow? (f : Footprint) (states links : Nat) : Option Footprint :=
  let f : Footprint := ⟨f.states + states, f.links + links⟩
  if f.bytes ≤ limit then some f else none

end Footprint

/-! ## Sets of characters -/

abbrev Edge := ByteRange × Nat

instance : Digestible (List Edge) where
  digest edges := edges.foldl (fun d ((low, high), target) => ((d.mix low).mix high).mix target)
    .start

/-- A state that is reached over bytes from another one, in a reversed automaton. -/
structure Origin where
  state : Nat
  bytes : ByteRange
deriving DecidableEq, Repr

instance : Digestible Origin where
  digest origin := ((Digest.start.mix origin.state).mix origin.bytes.1).mix origin.bytes.2

/-- An automaton in the making, with the states of the current set that can be used again. -/
structure Sharing (κ : Type) where
  size : Footprint
  memo : Memo κ

/-- The number of the state under a key, which is made if there is none to be used again. -/
def Sharing.state {κ : Type} [Digestible κ] [DecidableEq κ] (key : κ) (links : Nat) :
    StateM (Sharing κ) Nat := fun s =>
  match s.memo.find? key with
  | some n => (n, s)
  | none =>
    let n := s.size.states
    (n, ⟨⟨n + 1, s.size.links + links⟩, s.memo.store key n⟩)

/-- Puts sequences that begin with the same range together, without that range. -/
def byFirst : List (List ByteRange) → List (ByteRange × List (List ByteRange))
  | [] => []
  | [] :: rest => byFirst rest
  | (range :: tail) :: rest =>
    match byFirst rest with
    | (other, tails) :: groups =>
      if range = other then (range, tail :: tails) :: groups
      else (range, [tail]) :: (other, tails) :: groups
    | [] => [(range, [tail])]

/-- The state from which the sequences lead to `target`. States that lead to the same states over
the same ranges are one. -/
def sequenceState (target : Nat) :
    (depth : Nat) → List (List ByteRange) → StateM (Sharing (List Edge)) Nat
  | 0, _ => return target
  | depth + 1, seqs => do
    let edges ← (byFirst seqs).mapM fun (range, tails) => do
      let next ← if tails.all List.isEmpty then pure target else sequenceState target depth tails
      return (range, next)
    Sharing.state edges (8 * edges.length)

def originState (start : Nat) : List ByteRange → StateM (Sharing Origin) Nat
  | [] => return start
  | range :: rest => do
    let n ← Sharing.state ⟨start, range⟩ 0
    originState n rest

def setFootprint (reversed : Bool) (s : CharSet) (f : Footprint) : Footprint :=
  if s.isAscii then ⟨f.states + 2, f.links + 8 * s.intervals.length⟩
  else if reversed then
    let seqs := sequencesOf s
    let start : Sharing Origin := ⟨⟨f.states + 2, f.links + 4 * seqs.length⟩, .empty 1000⟩
    ((seqs.forM fun seq => discard (originState (f.states + 1) seq)).run start).2.size
  else
    ((sequenceState f.states 4 (sequencesOf s)).run ⟨⟨f.states + 1, f.links⟩, .empty 10000⟩).2.size

/-! ## Alternatives of literals

Literals share their beginnings. A literal that ends where others go on separates those that come
before it from those after it. -/

/-- Cuts words at the empty ones; several empty words at the front count as one. -/
def cutAtEmpty (words : List (List UInt8)) : List (List (List UInt8)) :=
  match words with
  | [] :: rest => [] :: cut (rest.dropWhile List.isEmpty)
  | words => cut words
where
  cut : List (List UInt8) → List (List (List UInt8))
    | [] => [[]]
    | word :: rest =>
      match word, cut rest with
      | [], chunks => [] :: chunks
      | word, chunk :: chunks => (word :: chunk) :: chunks
      | word, [] => [[word]]

def firstBytes (words : List (List UInt8)) : List UInt8 := (words.filterMap List.head?).eraseDups

def after (byte : UInt8) (words : List (List UInt8)) : List (List UInt8) :=
  words.filterMap fun word => if word.head? = some byte then some word.tail else none

def wordsFootprint : (length : Nat) → List (List UInt8) → Footprint
  | 0, _ => ⟨0, 0⟩
  | length + 1, words =>
    let chunks := cutAtEmpty words
    let filled := chunks.filter fun chunk => !chunk.isEmpty
    filled.foldl (fun f chunk =>
      let bytes := firstBytes chunk
      let ranges := if bytes.length = 1 then 0 else 8 * bytes.length
      let f : Footprint := ⟨f.states + 1, f.links + ranges⟩
      bytes.foldl (fun f byte =>
        let rest := after byte chunk
        if rest.all List.isEmpty then f
        else
          let inner := wordsFootprint length rest
          ⟨f.states + inner.states, f.links + inner.links⟩) f)
      ⟨1, 4 * (filled.length + chunks.length - 1)⟩

def literalBytes (cs : List Char) : List UInt8 := cs.flatMap String.utf8EncodeChar

def literals? (es : List Expr) : Option (List (List UInt8)) :=
  es.mapM fun
    | .literal cs => some (literalBytes cs)
    | _ => none

/-! ## Expressions -/

/-- The room after a part has been built, and whether the part ends in a choice, which takes another
link for what comes next. -/
structure Part where
  size : Footprint
  endsInChoice : Bool

namespace Part

def linkBytes (p : Part) : Nat := if p.endsInChoice then 4 else 0

def plain (size : Footprint) : Part := ⟨size, false⟩

def append? (build : Footprint → Option Part) : (count : Nat) → Part → Option Part
  | 0, p => some p
  | count + 1, p => do
    let q ← build p.size
    append? build count ⟨← q.size.grow? 0 p.linkBytes, q.endsInChoice⟩

def exactly? (build : Footprint → Option Part) (count : Nat) (f : Footprint) : Option Part :=
  match count with
  | 0 => (f.grow? 1 0).map plain
  | count + 1 => do append? build count (← build f)

/-- `count` more parts of one kind behind a part, each of which may be the last. -/
def appendOptional? (build : Footprint → Option Part) : (count : Nat) → Part → Option Part
  | 0, p => some p
  | count + 1, p => do
    let q ← build (← p.size.grow? 1 0)
    appendOptional? build count ⟨← q.size.grow? 0 (8 + p.linkBytes), q.endsInChoice⟩

def repeated? (build : Footprint → Option Part) (consumes : Bool) (least : Nat)
    (most : Option Nat) (f : Footprint) : Option Part :=
  match least, most with
  | 0, none => do
    if consumes then
      let p ← build (← f.grow? 1 0)
      return ⟨← p.size.grow? 0 (4 + p.linkBytes), true⟩
    else
      let p ← build f
      return plain (← p.size.grow? 3 (16 + p.linkBytes))
  | 1, none => do
    let p ← build f
    return ⟨← p.size.grow? 1 (4 + p.linkBytes), true⟩
  | least, none => do
    let p ← exactly? build least f
    return ⟨← p.size.grow? 1 (4 + p.linkBytes), true⟩
  | 0, some 1 => do
    let p ← build (← f.grow? 1 0)
    return plain (← p.size.grow? 1 (8 + p.linkBytes))
  | least, some most => do
    let p ← exactly? build least f
    if least = most then return p
    let p ← appendOptional? build (most - least) ⟨← p.size.grow? 1 0, p.endsInChoice⟩
    return plain (← p.size.grow? 0 p.linkBytes)

end Part

namespace Expr

mutual

/-- Builds an expression behind what has been built before. Groups are marked in the automaton that
reads forwards. -/
def build? (reversed : Bool) : Expr → Footprint → Option Part
  | .empty, f => (f.grow? 1 0).map .plain
  | .literal cs, f => (f.grow? (literalBytes cs).length 0).map .plain
  | .set s, f => ((setFootprint reversed s f).grow? 0 0).map .plain
  | .look _, f => (f.grow? 1 0).map .plain
  | .repetition least most _ e, f => Part.repeated? (e.build? reversed) e.consumes least most f
  | .capture _ e, f =>
    if reversed then e.build? reversed f
    else do
      let p ← e.build? reversed (← f.grow? 1 0)
      return .plain (← p.size.grow? 1 p.linkBytes)
  | .concat es, f => if reversed then buildBack? reversed es f else buildAll? reversed es (.plain f)
  | .alternation es, f =>
    match literals? es with
    | some words =>
      let words := if reversed then words.map List.reverse else words
      let inner := wordsFootprint ((words.map List.length).foldl max 0) words
      (f.grow? (inner.states + 1) inner.links).map .plain
    | none => (buildEach? reversed 0 es f).map .plain

def buildAll? (reversed : Bool) : List Expr → Part → Option Part
  | [], p => some p
  | e :: es, p => do
    let q ← e.build? reversed p.size
    buildAll? reversed es ⟨← q.size.grow? 0 p.linkBytes, q.endsInChoice⟩

def buildBack? (reversed : Bool) : List Expr → Footprint → Option Part
  | [], f => some (.plain f)
  | e :: es, f => do
    let p ← buildBack? reversed es f
    let q ← e.build? reversed p.size
    return ⟨← q.size.grow? 0 p.linkBytes, q.endsInChoice⟩

/-- Builds alternatives, of which `before` have been built. The choice between them and the state
where they meet come behind the second. -/
def buildEach? (reversed : Bool) (before : Nat) : List Expr → Footprint → Option Footprint
  | [], f => some f
  | e :: es, f => do
    let p ← e.build? reversed f
    let f ← p.size.grow? (if before = 1 then 2 else 0) (4 + p.linkBytes)
    buildEach? reversed (before + 1) es f

end

/-- The room of the whole automaton. Unless the search is tied to where it starts, a loop over all
bytes precedes the expression. -/
def footprint? (reversed : Bool) (e : Expr) : Option Footprint := do
  let tied := if reversed then e.endsText else e.startsText
  let f : Footprint := if tied then ⟨1, 0⟩ else ⟨3, 16⟩
  let p ← (if reversed then e else .capture 0 e).build? reversed f
  p.size.grow? 1 p.linkBytes

def fits (e : Expr) : Bool := (e.footprint? false).isSome && (e.footprint? true).isSome

end Expr
end DocQuery.Pattern
