import DocQuery.Text.Hex

/-!
# Universally unique identifiers

A hundred and twenty-eight bits, printed as lower-case hexadecimal digits in groups of 8, 4, 4, 4
and 12. Reading takes either case, with or without hyphens, and the hyphenated form in braces or
after `urn:uuid:`.
-/

namespace DocQuery

open Text

structure Uuid where
  bits : BitVec 128
deriving DecidableEq, Repr

namespace Uuid

def chars (u : Uuid) : List Char :=
  let ds := hexDigits 32 u.bits.toNat
  ds.take 8 ++ '-' :: ((ds.drop 8).take 4 ++ '-' :: ((ds.drop 12).take 4 ++ '-' ::
    ((ds.drop 16).take 4 ++ '-' :: ds.drop 20)))

def ofHex? (cs : List Char) : Option Uuid :=
  if cs.length = 32 then (hexNumber? cs).map fun n => ⟨BitVec.ofNat 128 n⟩ else none

/-- The digits of the hyphenated form, if the hyphens stand where they should. -/
def unhyphenated? (cs : List Char) : Option (List Char) :=
  if cs.length = 36 ∧ [8, 13, 18, 23].all (fun i => cs[i]? == some '-') then
    some (cs.take 8 ++ (cs.drop 9).take 4 ++ (cs.drop 14).take 4 ++ (cs.drop 19).take 4 ++
      cs.drop 24)
  else none

def parse? (text : String) : Option Uuid :=
  let cs := text.toList
  match cs.length with
  | 32 => ofHex? cs
  | 36 => (unhyphenated? cs).bind ofHex?
  | 38 =>
    if cs.head? = some '{' ∧ cs.getLast? = some '}' then
      (unhyphenated? ((cs.drop 1).take 36)).bind ofHex?
    else none
  | 45 =>
    if cs.take 9 = "urn:uuid:".toList then (unhyphenated? (cs.drop 9)).bind ofHex? else none
  | _ => none

end Uuid
end DocQuery
