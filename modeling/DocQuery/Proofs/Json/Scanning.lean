import DocQuery.Proofs.Json.Reading
import Mathlib.Data.List.DropRight

/-! # Scanning JSON text

A scanner passes over the value at the front of a text and gives back what stands behind it. It
follows the grammar and nothing else: neither the depth of containers nor the size of numbers is
limited. Where the reader finds a value, the scanner passes over the same characters. -/

namespace DocQuery.Json

open Text

def afterMagnitude? (cs : List Char) : Option (List Char) := do
  let (_, cs) ← readWhole cs
  let (_, cs) ← readFraction cs
  let (_, cs) ← readExponent cs
  return cs

def afterNumber? (cs : List Char) : Option (List Char) :=
  match cs with
  | '-' :: rest => afterMagnitude? rest
  | cs => afterMagnitude? cs

def afterScalar? (cs : List Char) : Option (List Char) :=
  match cs with
  | 'n' :: rest => List.isPrefixOf? ['u', 'l', 'l'] rest
  | 't' :: rest => List.isPrefixOf? ['r', 'u', 'e'] rest
  | 'f' :: rest => List.isPrefixOf? ['a', 'l', 's', 'e'] rest
  | '"' :: rest => (readString rest).map Prod.snd
  | cs => afterNumber? cs

theorem afterNumber?_unsigned {cs : List Char} (h : ∀ t, cs ≠ '-' :: t) :
    afterNumber? cs = afterMagnitude? cs := by
  unfold afterNumber?
  split
  · exact absurd rfl (h _)
  · rfl

theorem afterScalar?_number {cs : List Char} (hn : ∀ t, cs ≠ 'n' :: t) (ht : ∀ t, cs ≠ 't' :: t)
    (hf : ∀ t, cs ≠ 'f' :: t) (hq : ∀ t, cs ≠ '"' :: t) : afterScalar? cs = afterNumber? cs := by
  unfold afterScalar?
  split
  · exact absurd rfl (hn _)
  · exact absurd rfl (ht _)
  · exact absurd rfl (hf _)
  · exact absurd rfl (hq _)
  · rfl

mutual

/-- The rest of a text after a value. The fuel bounds the characters that are passed over. -/
def scanValue : (fuel : Nat) → List Char → Option (List Char)
  | 0, _ => none
  | fuel + 1, cs =>
    match skipGaps cs with
    | '[' :: rest =>
      match skipGaps rest with
      | ']' :: rest => some rest
      | _ => scanElements fuel rest
    | '{' :: rest =>
      match skipGaps rest with
      | '}' :: rest => some rest
      | _ => scanMembers fuel rest
    | cs => afterScalar? cs

def scanElements : (fuel : Nat) → List Char → Option (List Char)
  | 0, _ => none
  | fuel + 1, cs => do
    let rest ← scanValue fuel cs
    match skipGaps rest with
    | ',' :: rest => scanElements fuel rest
    | ']' :: rest => some rest
    | _ => none

def scanMembers : (fuel : Nat) → List Char → Option (List Char)
  | 0, _ => none
  | fuel + 1, cs =>
    match skipGaps cs with
    | '"' :: rest => do
      let (_, rest) ← readString rest
      match skipGaps rest with
      | ':' :: rest => do
        let rest ← scanValue fuel rest
        match skipGaps rest with
        | ',' :: rest => scanMembers fuel rest
        | '}' :: rest => some rest
        | _ => none
      | _ => none
    | _ => none

end

def scan (cs : List Char) : Option (List Char) := scanValue cs.length cs

theorem skipGaps_skipGaps (cs : List Char) : skipGaps (skipGaps cs) = skipGaps cs :=
  List.dropWhile_idempotent _ _

theorem scanValue_skipGaps (fuel : Nat) (cs : List Char) :
    scanValue fuel (skipGaps cs) = scanValue fuel cs := by
  cases fuel with
  | zero => rfl
  | succ fuel => rw [scanValue, scanValue, skipGaps_skipGaps]

theorem scanElements_skipGaps (fuel : Nat) (cs : List Char) :
    scanElements fuel (skipGaps cs) = scanElements fuel cs := by
  cases fuel with
  | zero => rfl
  | succ fuel => rw [scanElements, scanElements, scanValue_skipGaps]

theorem scanMembers_skipGaps (fuel : Nat) (cs : List Char) :
    scanMembers fuel (skipGaps cs) = scanMembers fuel cs := by
  cases fuel with
  | zero => rfl
  | succ fuel => rw [scanMembers, scanMembers, skipGaps_skipGaps]

/-! ## Readers take characters -/

variable {cs r r' rest : List Char}

def Advances {α : Type} (reader : Reader α) : Prop :=
  ∀ {cs : List Char} {a : α} {rest : List Char}, reader cs = some (a, rest) →
    rest.length < cs.length

theorem advances_readUnit : Advances readUnit := by
  intro cs n rest h
  unfold readUnit at h
  split at h
  · obtain ⟨m, -, hn⟩ := Option.map_eq_some_iff.1 h
    obtain ⟨-, rfl⟩ := Prod.mk.inj hn
    simp only [List.length_cons]
    omega
  · cases h

theorem advances_readUnicodeEscape : Advances readUnicodeEscape := by
  intro cs c rest h
  unfold readUnicodeEscape at h
  obtain ⟨⟨high, r⟩, hhigh, h⟩ := Option.bind_eq_some_iff.1 h
  have hlen := advances_readUnit hhigh
  dsimp only at h
  split at h
  · split at h
    · obtain ⟨⟨low, r'⟩, hlow, h⟩ := Option.bind_eq_some_iff.1 h
      have hlen' := advances_readUnit hlow
      dsimp only at h
      split at h
      · obtain ⟨-, rfl⟩ := Prod.mk.inj (Option.some.inj h)
        simp only [List.length_cons] at hlen
        omega
      · cases h
    · cases h
  · split at h
    · cases h
    · obtain ⟨-, rfl⟩ := Prod.mk.inj (Option.some.inj h)
      exact hlen

theorem advances_readEscape : Advances readEscape := by
  intro cs c rest h
  unfold readEscape at h
  split at h
  case h_9 => exact Nat.lt_succ_of_lt (advances_readUnicodeEscape h)
  case h_10 => cases h
  all_goals
    obtain ⟨-, rfl⟩ := Prod.mk.inj (Option.some.inj h)
    exact Nat.lt_succ_self _

theorem advances_readStringAux (fuel : Nat) (read : List Char) :
    Advances (readStringAux fuel read) := by
  intro cs s rest h
  induction fuel generalizing cs read with
  | zero => cases h
  | succ fuel ih =>
      unfold readStringAux at h
      split at h
      · obtain ⟨-, rfl⟩ := Prod.mk.inj (Option.some.inj h)
        exact Nat.lt_succ_self _
      · split at h
        · rename_i hescape
          have hlen := advances_readEscape hescape
          have hlen' := ih _ h
          simp only [List.length_cons]
          omega
        · cases h
      · split at h
        · cases h
        · exact Nat.lt_succ_of_lt (ih _ h)
      · cases h

theorem advances_readString : Advances readString := fun h => advances_readStringAux _ _ h

theorem advances_readDigits : Advances readDigits := by
  intro cs ds rest h
  unfold readDigits at h
  split at h
  · cases h
  · rename_i hne
    obtain ⟨-, rfl⟩ := Prod.mk.inj (Option.some.inj h)
    have hparts := congrArg List.length (List.takeWhile_append_dropWhile (p := isDecimal) (l := cs))
    rw [List.length_append] at hparts
    have hpos := List.length_pos_iff.2 hne
    omega

theorem advances_readWhole : Advances readWhole := by
  intro cs ds rest h
  unfold readWhole at h
  obtain ⟨⟨ds', r⟩, hdigits, h⟩ := Option.bind_eq_some_iff.1 h
  have hlen := advances_readDigits hdigits
  dsimp only at h
  split at h
  · cases h
  · obtain ⟨-, rfl⟩ := Prod.mk.inj (Option.some.inj h)
    exact hlen

theorem length_readFraction {places : Option (List Char)}
    (h : readFraction cs = some (places, rest)) : rest.length ≤ cs.length := by
  unfold readFraction at h
  split at h
  · obtain ⟨⟨ds, r⟩, hdigits, hr⟩ := Option.map_eq_some_iff.1 h
    have hlen := advances_readDigits hdigits
    obtain ⟨-, rfl⟩ := Prod.mk.inj hr
    exact Nat.le_succ_of_le (Nat.le_of_lt hlen)
  · obtain ⟨-, rfl⟩ := Prod.mk.inj (Option.some.inj h)
    exact Nat.le_refl _

theorem length_readExponent {exponent : Option Int}
    (h : readExponent cs = some (exponent, rest)) : rest.length ≤ cs.length := by
  unfold readExponent at h
  split at h
  · split at h
    · rename_i c r he
      obtain ⟨⟨ds, r'⟩, hdigits, h⟩ := Option.bind_eq_some_iff.1 h
      obtain ⟨-, rfl⟩ := Prod.mk.inj (Option.some.inj h)
      have hlen := advances_readDigits hdigits
      split at hlen <;> simp only [List.length_cons] at hlen ⊢ <;> omega
    · obtain ⟨-, rfl⟩ := Prod.mk.inj (Option.some.inj h)
      exact Nat.le_refl _
  · obtain ⟨-, rfl⟩ := Prod.mk.inj (Option.some.inj h)
    exact Nat.le_refl _

/-! ## What a scanner passes over -/

/-- The scanner passes over the front of a text up to the rest, given fuel for each character that
it passes over. -/
def PassesOver (scanner : Nat → List Char → Option (List Char)) (cs rest : List Char) : Prop :=
  rest.length < cs.length ∧ ∀ fuel, cs.length ≤ fuel + rest.length → scanner fuel cs = some rest

theorem PassesOver.scan (h : PassesOver scanValue cs rest) : scan cs = some rest :=
  h.2 cs.length (Nat.le_add_right _ _)

theorem PassesOver.of_succ {scanner : Nat → List Char → Option (List Char)}
    (hlen : rest.length < cs.length)
    (h : ∀ fuel, cs.length ≤ fuel + 1 + rest.length → scanner (fuel + 1) cs = some rest) :
    PassesOver scanner cs rest := by
  refine ⟨hlen, fun fuel hfuel => ?_⟩
  cases fuel with
  | zero => omega
  | succ fuel => exact h fuel hfuel

theorem length_skipGaps_le (cs : List Char) : (skipGaps cs).length ≤ cs.length :=
  (List.dropWhile_sublist _).length_le

theorem length_of_skipGaps {c : Char} (h : skipGaps cs = c :: r) : r.length < cs.length := by
  have hlen := length_skipGaps_le cs
  rw [h] at hlen
  exact hlen

theorem passesOver_scalar {c : Char} (hcs : skipGaps cs = c :: r) (hbracket : c ≠ '[')
    (hbrace : c ≠ '{') (h : afterScalar? (c :: r) = some rest) (hlen : rest.length < cs.length) :
    PassesOver scanValue cs rest := by
  refine .of_succ hlen fun fuel _ => ?_
  rw [scanValue, hcs]
  split
  · exact absurd (List.cons.inj ‹_›).1 hbracket
  · exact absurd (List.cons.inj ‹_›).1 hbrace
  · exact h

theorem scanElements_bracket (h : skipGaps cs = ']' :: r) (fuel : Nat) :
    scanElements fuel cs = none := by
  cases fuel with
  | zero => rfl
  | succ fuel =>
      have hnone : scanValue fuel cs = none := by
        cases fuel with
        | zero => rfl
        | succ fuel =>
            rw [scanValue, h]
            rfl
      rw [scanElements, hnone]
      rfl

theorem scanMembers_brace (h : skipGaps cs = '}' :: r) (fuel : Nat) :
    scanMembers fuel cs = none := by
  cases fuel with
  | zero => rfl
  | succ fuel =>
      rw [scanMembers, h]
      rfl

theorem passesOver_emptyArray (hcs : skipGaps cs = '[' :: r) (h : skipGaps r = ']' :: rest) :
    PassesOver scanValue cs rest := by
  have hlen := length_of_skipGaps hcs
  have hlen' := length_of_skipGaps h
  refine .of_succ (by omega) fun fuel _ => ?_
  simp only [scanValue, hcs, h]

theorem passesOver_array (hcs : skipGaps cs = '[' :: r) (h : PassesOver scanElements r rest) :
    PassesOver scanValue cs rest := by
  have hlen := length_of_skipGaps hcs
  have hlen' := h.1
  refine .of_succ (by omega) fun fuel hfuel => ?_
  have helements : scanElements fuel r = some rest := h.2 fuel (by omega)
  simp only [scanValue, hcs]
  split
  · rw [scanElements_bracket ‹_›] at helements
    cases helements
  · exact helements

theorem passesOver_emptyObject (hcs : skipGaps cs = '{' :: r) (h : skipGaps r = '}' :: rest) :
    PassesOver scanValue cs rest := by
  have hlen := length_of_skipGaps hcs
  have hlen' := length_of_skipGaps h
  refine .of_succ (by omega) fun fuel _ => ?_
  simp only [scanValue, hcs, h]

theorem passesOver_object (hcs : skipGaps cs = '{' :: r) (h : PassesOver scanMembers r rest) :
    PassesOver scanValue cs rest := by
  have hlen := length_of_skipGaps hcs
  have hlen' := h.1
  refine .of_succ (by omega) fun fuel hfuel => ?_
  have hmembers : scanMembers fuel r = some rest := h.2 fuel (by omega)
  simp only [scanValue, hcs]
  split
  · rw [scanMembers_brace ‹_›] at hmembers
    cases hmembers
  · exact hmembers

theorem passesOver_lastElement (h : PassesOver scanValue cs r) (hr : skipGaps r = ']' :: rest) :
    PassesOver scanElements cs rest := by
  have hlen := h.1
  have hlen' := length_of_skipGaps hr
  refine .of_succ (by omega) fun fuel hfuel => ?_
  simp [scanElements, h.2 fuel (by omega), hr]

theorem passesOver_element (h : PassesOver scanValue cs r) (hr : skipGaps r = ',' :: r')
    (h' : PassesOver scanElements r' rest) : PassesOver scanElements cs rest := by
  have hlen := h.1
  have hlen' := length_of_skipGaps hr
  have hlen'' := h'.1
  refine .of_succ (by omega) fun fuel hfuel => ?_
  simp [scanElements, h.2 fuel (by omega), hr, h'.2 fuel (by omega)]

/-- After the key and the value of a member the scanner decides by the next character. -/
theorem scanMembers_member {key : String} {k v : List Char} {fuel : Nat}
    (hcs : skipGaps cs = '"' :: k) (hk : readString k = some (key, r)) (hr : skipGaps r = ':' :: v)
    (hv : scanValue fuel v = some r') :
    scanMembers (fuel + 1) cs =
      match skipGaps r' with
      | ',' :: rest => scanMembers fuel rest
      | '}' :: rest => some rest
      | _ => none := by
  simp only [scanMembers, hcs, hk, hr, hv, Option.bind_eq_bind, Option.bind_some]

theorem passesOver_lastMember {key : String} {k v : List Char} (hcs : skipGaps cs = '"' :: k)
    (hk : readString k = some (key, r)) (hr : skipGaps r = ':' :: v)
    (hv : PassesOver scanValue v r') (hr' : skipGaps r' = '}' :: rest) :
    PassesOver scanMembers cs rest := by
  have hquote := length_of_skipGaps hcs
  have hkey := advances_readString hk
  have hcolon := length_of_skipGaps hr
  have hvalue := hv.1
  have hbrace := length_of_skipGaps hr'
  refine .of_succ (by omega) fun fuel hfuel => ?_
  rw [scanMembers_member hcs hk hr (hv.2 fuel (by omega)), hr']
  rfl

theorem passesOver_member {key : String} {k v r'' : List Char} (hcs : skipGaps cs = '"' :: k)
    (hk : readString k = some (key, r)) (hr : skipGaps r = ':' :: v)
    (hv : PassesOver scanValue v r') (hr' : skipGaps r' = ',' :: r'')
    (h : PassesOver scanMembers r'' rest) : PassesOver scanMembers cs rest := by
  have hquote := length_of_skipGaps hcs
  have hkey := advances_readString hk
  have hcolon := length_of_skipGaps hr
  have hvalue := hv.1
  have hcomma := length_of_skipGaps hr'
  have hmembers := h.1
  refine .of_succ (by omega) fun fuel hfuel => ?_
  rw [scanMembers_member hcs hk hr (hv.2 fuel (by omega)), hr']
  exact h.2 fuel (by omega)

/-! ## What is read is passed over -/

/-- The scanner passes over what a reader reads, character for character. -/
def Follows {α : Type} (after : List Char → Option (List Char)) (reader : Reader α) : Prop :=
  ∀ {cs : List Char} {a : α} {rest : List Char}, reader cs = some (a, rest) →
    after cs = some rest ∧ rest.length < cs.length

theorem afterMagnitude?_of_parts {whole : List Char} {places : Option (List Char)}
    {exponent : Option Int} (hw : readWhole cs = some (whole, r))
    (hf : readFraction r = some (places, r')) (he : readExponent r' = some (exponent, rest)) :
    afterMagnitude? cs = some rest ∧ rest.length < cs.length := by
  have hlen := advances_readWhole hw
  have hlen' := length_readFraction hf
  have hlen'' := length_readExponent he
  refine ⟨?_, by omega⟩
  simp [afterMagnitude?, hw, hf, he]

theorem follows_readNumber : Follows afterNumber? readNumber := by
  intro cs n rest h
  unfold readNumber at h
  obtain ⟨⟨whole, r⟩, hw, h⟩ := Option.bind_eq_some_iff.1 h
  obtain ⟨⟨places, r'⟩, hf, h⟩ := Option.bind_eq_some_iff.1 h
  obtain ⟨⟨exponent, r''⟩, he, h⟩ := Option.bind_eq_some_iff.1 h
  obtain ⟨number, -, h⟩ := Option.bind_eq_some_iff.1 h
  obtain ⟨-, rfl⟩ := Prod.mk.inj (Option.some.inj h)
  split at hw
  · obtain ⟨hafter, hlen⟩ := afterMagnitude?_of_parts hw hf he
    exact ⟨hafter, Nat.lt_succ_of_lt hlen⟩
  · rename_i hsign
    rw [afterNumber?_unsigned hsign]
    exact afterMagnitude?_of_parts hw hf he

theorem follows_readScalar : Follows afterScalar? readScalar := by
  intro cs j rest h
  unfold readScalar at h
  split at h
  case h_4 =>
    obtain ⟨⟨s, r⟩, hs, hr⟩ := Option.map_eq_some_iff.1 h
    obtain ⟨-, rfl⟩ := Prod.mk.inj hr
    exact ⟨Option.map_eq_some_iff.2 ⟨_, hs, rfl⟩, Nat.lt_succ_of_lt (advances_readString hs)⟩
  case h_5 hn ht hf hq =>
    obtain ⟨⟨n, r⟩, hnumber, hr⟩ := Option.map_eq_some_iff.1 h
    obtain ⟨-, rfl⟩ := Prod.mk.inj hr
    rw [afterScalar?_number hn ht hf hq]
    exact follows_readNumber hnumber
  all_goals
    obtain ⟨r, hword, hr⟩ := Option.map_eq_some_iff.1 h
    obtain ⟨-, rfl⟩ := Prod.mk.inj hr
    have hlength := congrArg List.length (List.isPrefixOf?_eq_some_iff_append_eq.1 hword)
    rw [List.length_append] at hlength
    refine ⟨hword, ?_⟩
    rw [List.length_cons]
    omega

theorem PassesOver.of_skipGaps {scanner : Nat → List Char → Option (List Char)}
    (hscanner : ∀ fuel, scanner fuel (skipGaps cs) = scanner fuel cs)
    (h : PassesOver scanner (skipGaps cs) rest) : PassesOver scanner cs rest := by
  have hlen := length_skipGaps_le cs
  refine ⟨Nat.lt_of_lt_of_le h.1 hlen, fun fuel hfuel => ?_⟩
  rw [← hscanner]
  exact h.2 fuel (by omega)

theorem passesOver_readScalar {j : Json} (hbracket : ∀ r, skipGaps cs ≠ '[' :: r)
    (hbrace : ∀ r, skipGaps cs ≠ '{' :: r) (h : readScalar (skipGaps cs) = some (j, rest)) :
    PassesOver scanValue cs rest := by
  obtain ⟨hafter, hlen⟩ := follows_readScalar h
  cases hcs : skipGaps cs with
  | nil =>
      rw [hcs] at hlen
      exact absurd hlen (Nat.not_lt_zero _)
  | cons c r =>
      rw [hcs] at hafter hlen
      have hlen' := length_of_skipGaps hcs
      rw [List.length_cons] at hlen
      refine passesOver_scalar hcs ?_ ?_ hafter (by omega)
      · rintro rfl
        exact hbracket r hcs
      · rintro rfl
        exact hbrace r hcs

theorem passesOver_rules :
    ReadingRules (fun cs _ rest => PassesOver scanValue cs rest)
      (fun cs _ rest => PassesOver scanElements cs rest)
      (fun cs _ rest => PassesOver scanMembers cs rest) where
  scalar hbracket hbrace h := passesOver_readScalar hbracket hbrace h
  emptyArray hcs hr := passesOver_emptyArray hcs hr
  array hcs h := passesOver_array hcs (h.of_skipGaps fun fuel => scanElements_skipGaps fuel _)
  emptyObject hcs hr := passesOver_emptyObject hcs hr
  object hcs h := passesOver_object hcs (h.of_skipGaps fun fuel => scanMembers_skipGaps fuel _)
  lastElement h hr := passesOver_lastElement h hr
  element h hr h' := passesOver_element h hr h'
  lastMember hcs hkey hcolon hv hr := passesOver_lastMember hcs hkey hcolon hv hr
  member hcs hkey hcolon hv hr h := passesOver_member hcs hkey hcolon hv hr h

theorem scan_of_readValue {j : Json} (h : readValue cs = some (j, rest)) : scan cs = some rest :=
  (passesOver_rules.readValue h).scan

end DocQuery.Json
