import DocQuery.Json.Parser

/-! # What holds of everything that is read

A fact about values and the texts that they are read from holds of whatever the reader finds, if the
scalars have it and each form of a container hands it on. -/

namespace DocQuery.Json

/-- The fact `V` about a value, `E` about elements and `M` about members, each between the text that
is read and the rest of it, are handed on by every form of the grammar. -/
structure ReadingRules (V : List Char → Json → List Char → Prop)
    (E : List Char → List Json → List Char → Prop)
    (M : List Char → List (String × Json) → List Char → Prop) : Prop where
  scalar {cs rest : List Char} {j : Json} : (∀ r, skipGaps cs ≠ '[' :: r) →
    (∀ r, skipGaps cs ≠ '{' :: r) → readScalar (skipGaps cs) = some (j, rest) → V cs j rest
  emptyArray {cs r rest : List Char} : skipGaps cs = '[' :: r → skipGaps r = ']' :: rest →
    V cs (.arr []) rest
  array {cs r rest : List Char} {es : List Json} : skipGaps cs = '[' :: r → E (skipGaps r) es rest →
    V cs (.arr es) rest
  emptyObject {cs r rest : List Char} : skipGaps cs = '{' :: r → skipGaps r = '}' :: rest →
    V cs (ofMembers []) rest
  object {cs r rest : List Char} {ms : List (String × Json)} : skipGaps cs = '{' :: r →
    M (skipGaps r) ms rest → V cs (ofMembers ms) rest
  lastElement {cs r rest : List Char} {e : Json} : V cs e r → skipGaps r = ']' :: rest →
    E cs [e] rest
  element {cs r r' rest : List Char} {e : Json} {es : List Json} : V cs e r →
    skipGaps r = ',' :: r' → E r' es rest → E cs (e :: es) rest
  lastMember {cs k r t r' rest : List Char} {key : String} {v : Json} : skipGaps cs = '"' :: k →
    readString k = some (key, r) → skipGaps r = ':' :: t → V t v r' → skipGaps r' = '}' :: rest →
    M cs [(key, v)] rest
  member {cs k r t r' r'' rest : List Char} {key : String} {v : Json} {ms : List (String × Json)} :
    skipGaps cs = '"' :: k → readString k = some (key, r) → skipGaps r = ':' :: t → V t v r' →
    skipGaps r' = ',' :: r'' → M r'' ms rest → M cs ((key, v) :: ms) rest

namespace ReadingRules

variable {V : List Char → Json → List Char → Prop} {E : List Char → List Json → List Char → Prop}
  {M : List Char → List (String × Json) → List Char → Prop} {element : Reader Json}
  {cs r rest : List Char}

theorem elements (rules : ReadingRules V E M)
    (hV : ∀ cs j rest, element cs = some (j, rest) → V cs j rest) {fuel : Nat} {es : List Json}
    (h : readElementsAux element fuel cs = some (es, rest)) : E cs es rest := by
  induction fuel generalizing cs es rest with
  | zero => cases h
  | succ fuel ih =>
      rw [readElementsAux] at h
      obtain ⟨⟨e, r⟩, he, h⟩ := Option.bind_eq_some_iff.1 h
      have hvalue := hV cs e r he
      dsimp only at h
      split at h
      · rename_i hr
        obtain ⟨⟨es', r'⟩, hes, h⟩ := Option.bind_eq_some_iff.1 h
        obtain ⟨rfl, rfl⟩ := Prod.mk.inj (Option.some.inj h)
        exact rules.element hvalue hr (ih hes)
      · rename_i hr
        obtain ⟨rfl, rfl⟩ := Prod.mk.inj (Option.some.inj h)
        exact rules.lastElement hvalue hr
      · cases h

theorem members (rules : ReadingRules V E M)
    (hV : ∀ cs j rest, element cs = some (j, rest) → V cs j rest) {fuel : Nat}
    {ms : List (String × Json)} (h : readMembersAux element fuel cs = some (ms, rest)) :
    M cs ms rest := by
  induction fuel generalizing cs ms rest with
  | zero => cases h
  | succ fuel ih =>
      rw [readMembersAux] at h
      split at h
      · rename_i hcs
        obtain ⟨⟨key, r⟩, hkey, h⟩ := Option.bind_eq_some_iff.1 h
        dsimp only at h
        split at h
        · rename_i t hcolon
          obtain ⟨⟨v, r'⟩, hv, h⟩ := Option.bind_eq_some_iff.1 h
          have hvalue := hV t v r' hv
          dsimp only at h
          split at h
          · rename_i hr'
            obtain ⟨⟨ms', r''⟩, hms, h⟩ := Option.bind_eq_some_iff.1 h
            obtain ⟨rfl, rfl⟩ := Prod.mk.inj (Option.some.inj h)
            exact rules.member hcs hkey hcolon hvalue hr' (ih hms)
          · rename_i hr'
            obtain ⟨rfl, rfl⟩ := Prod.mk.inj (Option.some.inj h)
            exact rules.lastMember hcs hkey hcolon hvalue hr'
          · cases h
        · cases h
      · cases h

theorem arrays (rules : ReadingRules V E M)
    (hV : ∀ cs j rest, element cs = some (j, rest) → V cs j rest) {es : List Json}
    (hcs : skipGaps cs = '[' :: r) (h : readElements element r = some (es, rest)) :
    V cs (.arr es) rest := by
  unfold readElements at h
  split at h
  · rename_i hr
    obtain ⟨rfl, rfl⟩ := Prod.mk.inj (Option.some.inj h)
    exact rules.emptyArray hcs hr
  · exact rules.array hcs (rules.elements hV h)

theorem objects (rules : ReadingRules V E M)
    (hV : ∀ cs j rest, element cs = some (j, rest) → V cs j rest) {ms : List (String × Json)}
    (hcs : skipGaps cs = '{' :: r) (h : readMembers element r = some (ms, rest)) :
    V cs (ofMembers ms) rest := by
  unfold readMembers at h
  split at h
  · rename_i hr
    obtain ⟨rfl, rfl⟩ := Prod.mk.inj (Option.some.inj h)
    exact rules.emptyObject hcs hr
  · exact rules.object hcs (rules.members hV h)

theorem values (rules : ReadingRules V E M) (depth : Nat) :
    ∀ cs j rest, readValueAux depth cs = some (j, rest) → V cs j rest := by
  induction depth with
  | zero =>
      intro cs j rest h
      unfold readValueAux at h
      split at h
      · cases h
      · cases h
      · exact rules.scalar ‹_› ‹_› h
  | succ depth ih =>
      intro cs j rest h
      unfold readValueAux at h
      split at h
      · rename_i hcs
        obtain ⟨⟨es, r⟩, hes, hj⟩ := Option.map_eq_some_iff.1 h
        obtain ⟨rfl, rfl⟩ := Prod.mk.inj hj
        exact rules.arrays ih hcs hes
      · rename_i hcs
        obtain ⟨⟨ms, r⟩, hms, hj⟩ := Option.map_eq_some_iff.1 h
        obtain ⟨rfl, rfl⟩ := Prod.mk.inj hj
        exact rules.objects ih hcs hms
      · exact rules.scalar ‹_› ‹_› h

end ReadingRules

theorem ReadingRules.readValue {V : List Char → Json → List Char → Prop}
    {E : List Char → List Json → List Char → Prop}
    {M : List Char → List (String × Json) → List Char → Prop} (rules : ReadingRules V E M)
    {cs rest : List Char} {j : Json} (h : Json.readValue cs = some (j, rest)) : V cs j rest :=
  rules.values maxDepth cs j rest h

end DocQuery.Json
