import DocQuery.Proofs.Value.RegexLiteral

/-! # The items of a pattern

A pattern is a sequence of items: escapes, brackets that open and close a class, and characters that
stand alone, each inside or outside of a class. Its source has the same items, except that a slash
and a line terminator may be spelled otherwise, and nothing is left in it that would have to be
escaped, so that the source of a source is the source itself.
-/

namespace DocQuery.RegexLiteral

/-! ## Sources are in normal form -/

/-- Whether the last backslash of a pattern has nothing to take. -/
def dangles : List Char → Bool
  | [] => false
  | c :: rest =>
    if c = '\\' then
      match rest with
      | [] => true
      | _ :: rest => dangles rest
    else dangles rest

theorem dangles_pair (d : Char) (cs : List Char) : dangles ('\\' :: d :: cs) = dangles cs := by
  rw [dangles, if_pos rfl]

theorem dangles_single {c : Char} (hc : c ≠ '\\') (cs : List Char) :
    dangles (c :: cs) = dangles cs := by
  rw [dangles.eq_def]
  simp [hc]

theorem write_single (inClass : Bool) {c : Char} (hc : c ≠ '\\') (cs : List Char) :
    RegexSource.write inClass (c :: cs) =
      RegexSource.plainChars inClass c ++ RegexSource.write (bracket inClass c) cs := by
  rw [RegexSource.write.eq_def]
  simp only [hc, if_false]
  rfl

namespace Settled

variable {inClass after : Bool} {cs : List Char}

theorem isLineTerminator_eq_false (h : Settled inClass cs after) :
    ∀ c ∈ cs, isLineTerminator c = false := by
  induction h with
  | nil => simp
  | pair hd _ ih =>
      exact List.forall_mem_cons.2 ⟨by decide, List.forall_mem_cons.2 ⟨hd, ih⟩⟩
  | single hc _ _ _ ih => exact List.forall_mem_cons.2 ⟨hc, ih⟩

theorem dangles_eq_false (h : Settled inClass cs after) : dangles cs = false := by
  induction h with
  | nil => rfl
  | pair _ _ ih => rw [dangles_pair, ih]
  | single _ hbackslash _ _ ih => rw [dangles_single hbackslash, ih]

theorem write_eq (h : Settled inClass cs after) : RegexSource.write inClass cs = cs := by
  induction h with
  | nil => rfl
  | pair hd _ ih =>
      rw [RegexSource.write, if_pos rfl, RegexSource.escapedChars,
        terminatorName?_eq_none_iff.2 hd, ih]
      rfl
  | @single inClass _ c cs hc hbackslash hslash _ ih =>
      rw [write_single inClass hbackslash, ih, RegexSource.plainChars, if_neg hslash,
        terminatorName?_eq_none_iff.2 hc]
      rfl

end Settled

theorem write_ne_nil {pattern : List Char} (h : pattern ≠ []) (inClass : Bool) :
    RegexSource.write inClass pattern ≠ [] := by
  fun_cases RegexSource.write inClass pattern with
  | case1 => exact absurd rfl h
  | case2 => exact List.cons_ne_nil _ _
  | case3 => exact List.cons_ne_nil _ _
  | case4 c rest hc =>
      apply List.append_ne_nil_of_left_ne_nil
      unfold RegexSource.plainChars
      split
      · exact List.cons_ne_nil _ _
      · split <;> exact List.cons_ne_nil _ _

theorem regexSource_of_ne_empty {pattern : String} (h : pattern ≠ "") :
    regexSource pattern = String.ofList (RegexSource.write false pattern.toList) := by
  rw [regexSource, if_neg (mt String.isEmpty_iff.1 h)]

theorem regexSource_ne_empty (pattern : String) : regexSource pattern ≠ "" := by
  by_cases h : pattern = ""
  · subst h
    decide
  · rw [regexSource_of_ne_empty h]
    intro hsource
    have hwrite := write_ne_nil (mt String.toList_eq_nil_iff.1 h) false
    rw [← String.toList_ofList (l := RegexSource.write false pattern.toList), hsource] at hwrite
    exact hwrite rfl

/-! ## Items -/

inductive Item where
  | escape (c : Char)
  | opening
  | closing
  | plain (c : Char)
deriving DecidableEq, Repr

structure Placed where
  item : Item
  inClass : Bool
deriving DecidableEq, Repr

def Item.ofChar (c : Char) : Item :=
  if c = '[' then .opening else if c = ']' then .closing else .plain c

/-- The items of a pattern. A backslash that has nothing to take stands alone. -/
def items : (inClass : Bool) → List Char → List Placed
  | _, [] => []
  | inClass, c :: rest =>
    if c = '\\' then
      match rest with
      | [] => [⟨.plain '\\', inClass⟩]
      | d :: rest => ⟨.escape d, inClass⟩ :: items inClass rest
    else ⟨.ofChar c, inClass⟩ :: items (bracket inClass c) rest

def afterPlain? : List Char → List Placed → Option (List Placed)
  | [], is => some is
  | _ :: _, [] => none
  | c :: cs, i :: is => if i.item = .plain c then afterPlain? cs is else none

/-- Puts an escape in front of items whose spelling has been settled. An escaped slash is a slash,
and a line terminator is the same raw behind a backslash and by its escape name. -/
def respellEscape (c : Char) (inClass : Bool) (is : List Placed) : List Placed :=
  if c = '/' ∨ isLineTerminator c then ⟨.plain c, inClass⟩ :: is
  else if c = 'n' then ⟨.plain '\n', inClass⟩ :: is
  else if c = 'r' then ⟨.plain '\r', inClass⟩ :: is
  else if c = 'u' then
    match afterPlain? ['2', '0', '2', '8'] is, afterPlain? ['2', '0', '2', '9'] is with
    | some rest, _ => ⟨.plain '\u2028', inClass⟩ :: rest
    | none, some rest => ⟨.plain '\u2029', inClass⟩ :: rest
    | none, none => ⟨.escape c, inClass⟩ :: is
  else ⟨.escape c, inClass⟩ :: is

def respell : List Placed → List Placed
  | [] => []
  | ⟨.escape c, inClass⟩ :: is => respellEscape c inClass (respell is)
  | i :: is => i :: respell is

theorem items_pair (inClass : Bool) (d : Char) (cs : List Char) :
    items inClass ('\\' :: d :: cs) = ⟨.escape d, inClass⟩ :: items inClass cs := by
  rw [items, if_pos rfl]

theorem items_single (inClass : Bool) {c : Char} (hc : c ≠ '\\') (cs : List Char) :
    items inClass (c :: cs) = ⟨.ofChar c, inClass⟩ :: items (bracket inClass c) cs := by
  rw [items.eq_def]
  simp [hc]

theorem respell_items_pair (inClass : Bool) (d : Char) (cs : List Char) :
    respell (items inClass ('\\' :: d :: cs)) =
      respellEscape d inClass (respell (items inClass cs)) := by
  rw [items_pair, respell]

theorem respell_items_single (inClass : Bool) {c : Char} (hc : c ≠ '\\') (cs : List Char) :
    respell (items inClass (c :: cs)) =
      ⟨.ofChar c, inClass⟩ :: respell (items (bracket inClass c) cs) := by
  rw [items_single inClass hc, Item.ofChar]
  split_ifs <;> rfl

theorem isLineTerminator_of_terminatorName? {c : Char} {name : List Char}
    (h : RegexSource.terminatorName? c = some name) : isLineTerminator c = true := by
  rw [← Bool.not_eq_false, ← terminatorName?_eq_none_iff, h]
  simp

/-- The escape name of a line terminator is read as the terminator. -/
theorem respell_items_terminatorName {c : Char} {name : List Char}
    (h : RegexSource.terminatorName? c = some name) (inClass : Bool) (cs : List Char) :
    respell (items inClass ('\\' :: (name ++ cs))) =
      ⟨.plain c, inClass⟩ :: respell (items inClass cs) := by
  unfold RegexSource.terminatorName? at h
  split_ifs at h with hlf hcr hls hps
  all_goals obtain rfl := Option.some.inj h
  · rw [List.singleton_append, respell_items_pair, hlf]
    rfl
  · rw [List.singleton_append, respell_items_pair, hcr]
    rfl
  · simp only [List.cons_append, List.nil_append]
    rw [respell_items_pair, respell_items_single _ (by decide), respell_items_single _ (by decide),
      respell_items_single _ (by decide), respell_items_single _ (by decide), hls]
    rfl
  · simp only [List.cons_append, List.nil_append]
    rw [respell_items_pair, respell_items_single _ (by decide), respell_items_single _ (by decide),
      respell_items_single _ (by decide), respell_items_single _ (by decide), hps]
    rfl

theorem respell_items_escapedChars (inClass : Bool) (d : Char) (cs : List Char) :
    respell (items inClass ('\\' :: (RegexSource.escapedChars d ++ cs))) =
      respellEscape d inClass (respell (items inClass cs)) := by
  unfold RegexSource.escapedChars
  cases h : RegexSource.terminatorName? d with
  | none => exact respell_items_pair inClass d cs
  | some name =>
      have hterminator := isLineTerminator_of_terminatorName? h
      rw [Option.getD_some, respell_items_terminatorName h, respellEscape,
        if_pos (.inr hterminator)]

theorem respell_items_plainChars (inClass : Bool) {c : Char} (hc : c ≠ '\\') (cs : List Char) :
    respell (items inClass (RegexSource.plainChars inClass c ++ cs)) =
      ⟨.ofChar c, inClass⟩ :: respell (items (bracket inClass c) cs) := by
  unfold RegexSource.plainChars
  by_cases hslash : c = '/' ∧ inClass = false
  · obtain ⟨rfl, rfl⟩ := hslash
    exact respell_items_pair false '/' cs
  · rw [if_neg hslash]
    cases h : RegexSource.terminatorName? c with
    | none => exact respell_items_single inClass hc cs
    | some name =>
        have hitem : Item.ofChar c = .plain c := by
          have hterminator := isLineTerminator_of_terminatorName? h
          unfold Item.ofChar
          rw [if_neg, if_neg]
          · rintro rfl
            exact absurd hterminator (by decide)
          · rintro rfl
            exact absurd hterminator (by decide)
        rw [bracket_of_terminatorName? h, hitem]
        exact respell_items_terminatorName h inClass cs

/-- The source of a pattern has its items, each in a class exactly if it was. -/
theorem respell_items_write {inClass : Bool} {pattern : List Char}
    (h : dangles pattern = false) :
    respell (items inClass (RegexSource.write inClass pattern)) =
      respell (items inClass pattern) := by
  fun_induction RegexSource.write inClass pattern with
  | case1 inClass => rfl
  | case2 inClass => cases h
  | case3 inClass d rest ih =>
      rw [dangles_pair] at h
      rw [respell_items_escapedChars, respell_items_pair, ih h]
  | case4 inClass c rest hc ih =>
      rw [dangles_single hc] at h
      have hrest := ih h
      change respell (items (bracket inClass c) _) = _ at hrest
      rw [respell_items_plainChars inClass hc, respell_items_single inClass hc]
      exact congrArg _ hrest

/-- The source of a pattern is a normal form of it: it is its own source, has no line terminators
and no backslash without a partner, and says the same item by item, in the same classes. -/
theorem regexSource_normalises (pattern : String) :
    regexSource (regexSource pattern) = regexSource pattern ∧
    (∀ c ∈ (regexSource pattern).toList, isLineTerminator c = false) ∧
    dangles (regexSource pattern).toList = false ∧
    (pattern ≠ "" → dangles pattern.toList = false →
      respell (items false (regexSource pattern).toList) =
        respell (items false pattern.toList)) := by
  have hsettled := settled_regexSource pattern
  refine ⟨?_, hsettled.isLineTerminator_eq_false, hsettled.dangles_eq_false, ?_⟩
  · rw [regexSource_of_ne_empty (regexSource_ne_empty pattern), hsettled.write_eq,
      String.ofList_toList]
  · intro hne hdangles
    rw [regexSource_of_ne_empty hne, String.toList_ofList]
    exact respell_items_write hdangles

/-- Slashes and line terminators in every spelling, within a class and outside of it. -/
def manySpellings : String := "[/\n\\/]/\\/\r\\\u2028\u2029\\u2029\\n"

theorem manySpellings_normalise :
    manySpellings ≠ "" ∧ dangles manySpellings.toList = false ∧
    regexSource manySpellings = "[/\\n\\/]\\/\\/\\r\\u2028\\u2029\\u2029\\n" ∧
    respell (items false (regexSource manySpellings).toList) =
      respell (items false manySpellings.toList) := by
  have hne : manySpellings ≠ "" := by decide
  have hdangles : dangles manySpellings.toList = false := by decide +kernel
  obtain ⟨-, -, -, hitems⟩ := regexSource_normalises manySpellings
  exact ⟨hne, hdangles, by decide +kernel, hitems hne hdangles⟩

end DocQuery.RegexLiteral
