import DocQuery.Json.Printer
import DocQuery.Proofs.Json.Scanning
import DocQuery.Proofs.Numeric.Numerals
import Mathlib.Tactic.IntervalCases

/-! # The extent of compact text

The scanner passes over the compact text of a value and nothing else, whatever stands behind it,
unless that goes on a number. -/

namespace DocQuery.Json

open Text Numeric

variable {rest : List Char}

/-! ## Numbers -/

/-- What does not go on a number. -/
def Stops (rest : List Char) : Prop :=
  ∀ c ∈ rest.head?, isDecimal c = false ∧ c ≠ '.' ∧ c ≠ 'e' ∧ c ≠ 'E'

theorem readDigits_append {ds rest : List Char} (h : Digits ds)
    (hrest : ∀ c ∈ rest.head?, isDecimal c = false) :
    readDigits (ds ++ rest) = some (ds, rest) := by
  have hnone : rest.takeWhile isDecimal = [] ∧ rest.dropWhile isDecimal = rest := by
    cases rest with
    | nil => exact ⟨rfl, rfl⟩
    | cons c cs => simp [hrest c rfl]
  have htake : (ds ++ rest).takeWhile isDecimal = ds := by
    rw [List.takeWhile_append_of_pos h.decimal, hnone.1, List.append_nil]
  have hdrop : (ds ++ rest).dropWhile isDecimal = rest := by
    rw [List.dropWhile_append_of_pos h.decimal, hnone.2]
  unfold readDigits
  rw [htake, hdrop]
  cases ds with
  | nil => exact absurd rfl h.ne_nil
  | cons d ds => rfl

theorem readWhole_append {ds rest : List Char} (h : Whole ds)
    (hrest : ∀ c ∈ rest.head?, isDecimal c = false) : readWhole (ds ++ rest) = some (ds, rest) := by
  unfold readWhole
  rw [readDigits_append h.toDigits hrest, Option.bind_eq_bind, Option.bind_some]
  dsimp only
  split
  · rename_i t
    cases h.zero_alone _ rfl
  · rfl

theorem readFraction_append {fs rest : List Char} (h : Fraction fs)
    (hrest : ∀ c ∈ rest.head?, isDecimal c = false ∧ c ≠ '.') :
    ∃ places, readFraction (fs ++ rest) = some (places, rest) := by
  cases h with
  | none =>
      refine ⟨none, ?_⟩
      rw [List.nil_append]
      unfold readFraction
      split
      · exact absurd rfl (hrest '.' rfl).2
      · rfl
  | @places ds hds =>
      refine ⟨some ds, ?_⟩
      rw [List.cons_append, readFraction, readDigits_append hds fun c hc => (hrest c hc).1]
      rfl

theorem readExponent_append {es rest : List Char} (h : Exponent es) (hrest : Stops rest) :
    ∃ exponent, readExponent (es ++ rest) = some (exponent, rest) := by
  cases h with
  | none =>
      refine ⟨none, ?_⟩
      cases rest with
      | nil => rfl
      | cons c cs =>
          obtain ⟨-, -, he, hE⟩ := hrest c rfl
          exact if_neg (not_or.2 ⟨he, hE⟩)
  | signed hsign hds =>
      have hread := readDigits_append hds fun c hc => (hrest c hc).1
      obtain rfl | rfl := hsign <;> simp [readExponent, hread]

theorem head?_exponent {es rest : List Char} (h : Exponent es) (hrest : Stops rest) :
    ∀ c ∈ (es ++ rest).head?, isDecimal c = false ∧ c ≠ '.' := by
  cases h with
  | none => exact fun c hc => ⟨(hrest c hc).1, (hrest c hc).2.1⟩
  | signed hsign hds =>
      intro c hc
      obtain rfl : 'e' = c := Option.some.inj hc
      decide

theorem head?_fraction {fs rest : List Char} (h : Fraction fs)
    (hrest : ∀ c ∈ rest.head?, isDecimal c = false ∧ c ≠ '.') :
    ∀ c ∈ (fs ++ rest).head?, isDecimal c = false := by
  cases h with
  | none => exact fun c hc => (hrest c hc).1
  | places hds =>
      intro c hc
      obtain rfl : '.' = c := Option.some.inj hc
      decide

theorem afterMagnitude?_append {cs rest : List Char} (h : Magnitude cs) (hrest : Stops rest) :
    afterMagnitude? (cs ++ rest) = some rest := by
  obtain ⟨hw, hf, he⟩ := h
  have hexponent := head?_exponent he hrest
  obtain ⟨places, hplaces⟩ := readFraction_append hf hexponent
  obtain ⟨exponent, hread⟩ := readExponent_append he hrest
  rw [List.append_assoc, List.append_assoc]
  simp [afterMagnitude?, readWhole_append hw (head?_fraction hf hexponent), hplaces, hread]

theorem head?_magnitude {cs : List Char} (h : Magnitude cs) :
    ∃ c t, cs = c :: t ∧ isDecimal c = true := by
  cases h with
  | @mk ws fs es hw hf he =>
      cases ws with
      | nil => exact absurd rfl hw.ne_nil
      | cons c t => exact ⟨c, t ++ (fs ++ es), rfl, hw.decimal c (.head t)⟩

theorem head?_numeral {cs : List Char} (h : Numeral cs) :
    ∃ c t, cs = c :: t ∧ (c = '-' ∨ isDecimal c = true) := by
  cases h with
  | hyphen h => exact ⟨'-', _, rfl, .inl rfl⟩
  | plain h =>
      obtain ⟨c, t, hcs, hc⟩ := head?_magnitude h
      exact ⟨c, t, hcs, .inr hc⟩

/-- A numeral is passed over whole, and nothing else is. -/
theorem afterNumber?_append {cs rest : List Char} (h : Numeral cs) (hrest : Stops rest) :
    afterNumber? (cs ++ rest) = some rest := by
  cases h with
  | hyphen h => exact afterMagnitude?_append h hrest
  | plain h =>
      obtain ⟨c, t, rfl, hc⟩ := head?_magnitude h
      have hsign : ∀ t', c :: t ++ rest ≠ '-' :: t' := by
        intro t' hcons
        obtain rfl := (List.cons.inj hcons).1
        exact absurd hc (by decide)
      rw [afterNumber?_unsigned hsign]
      exact afterMagnitude?_append h hrest

/-! ## Strings -/

theorem readStringAux_escapeChar (fuel : Nat) (read : List Char) (c : Char) (cs : List Char) :
    readStringAux (fuel + 1) read (escapeChar c ++ cs) = readStringAux fuel (c :: read) cs := by
  unfold escapeChar
  split
  · rename_i hquote
    subst hquote
    rfl
  · rename_i hquote
    split
    · rename_i hslash
      subst hslash
      rfl
    · rename_i hslash
      split
      · rename_i hcontrol
        have hc : Char.ofNat c.toNat = c := Char.ofNat_toNat c
        rw [← hc]
        generalize c.toNat = n at hcontrol
        interval_cases n <;> rfl
      · rename_i hcontrol
        simp [readStringAux, hcontrol]

theorem readStringAux_flatMap {fuel : Nat} {cs : List Char} (h : cs.length < fuel)
    (read rest : List Char) :
    readStringAux fuel read (cs.flatMap escapeChar ++ '"' :: rest) =
      some (String.ofList (read.reverse ++ cs), rest) := by
  induction cs generalizing fuel read with
  | nil =>
      obtain ⟨fuel, rfl⟩ := Nat.exists_eq_succ_of_ne_zero (Nat.ne_of_gt h)
      simp [readStringAux]
  | cons c cs ih =>
      obtain ⟨fuel, rfl⟩ := Nat.exists_eq_succ_of_ne_zero (Nat.ne_of_gt (Nat.zero_lt_of_lt h))
      have hcs : cs.length < fuel := Nat.lt_of_succ_lt_succ h
      rw [List.flatMap_cons, List.append_assoc, readStringAux_escapeChar, ih hcs]
      simp

theorem length_le_flatMap_escapeChar (cs : List Char) :
    cs.length ≤ (cs.flatMap escapeChar).length := by
  induction cs with
  | nil => exact Nat.le_refl 0
  | cons c cs ih =>
      have hc : 0 < (escapeChar c).length := by
        unfold escapeChar
        repeat' split
        all_goals simp
      rw [List.flatMap_cons, List.length_append, List.length_cons]
      omega

/-- The quotation mark that ends a quoted text is the one put there, whatever the text is. -/
theorem readString_quoted (s : String) (rest : List Char) :
    readString (s.toList.flatMap escapeChar ++ '"' :: rest) = some (s, rest) := by
  have hlen := length_le_flatMap_escapeChar s.toList
  have hfuel : s.toList.length < (s.toList.flatMap escapeChar ++ '"' :: rest).length := by
    rw [List.length_append, List.length_cons]
    omega
  rw [readString, readStringAux_flatMap hfuel]
  simp

/-! ## Values -/

theorem induction_mem {P : Json → Prop} (null : P .null) (bool : ∀ b, P (.bool b))
    (num : ∀ n, P (.num n)) (str : ∀ s, P (.str s))
    (arr : ∀ elements, (∀ e ∈ elements, P e) → P (.arr elements))
    (obj : ∀ members : List (String × Json), (∀ m ∈ members, P m.2) → P (.obj members))
    (j : Json) : P j :=
  @Json.rec P (fun es => ∀ e ∈ es, P e) (fun ms => ∀ m ∈ ms, P m.2) (fun m => P m.2)
    null bool num str arr obj (by simp) (fun _ _ he hes => List.forall_mem_cons.2 ⟨he, hes⟩)
    (by simp) (fun _ _ hm hms => List.forall_mem_cons.2 ⟨hm, hms⟩) (fun _ _ hj => hj) j

theorem stops_cons {c : Char} (h : c ∈ [',', ']', '}', ' ', ')']) (cs : List Char) :
    Stops (c :: cs) := by
  intro c' hc'
  obtain rfl : c = c' := Option.some.inj hc'
  simp only [List.mem_cons, List.not_mem_nil, or_false] at h
  obtain rfl | rfl | rfl | rfl | rfl := h <;> decide

theorem numeral_chars (n : Number) : Numeral n.chars := by
  cases n with
  | int n => exact numeral_intChars n.val
  | float x => exact numeral_writeBinary64 rfl x.val

/-- The scanner passes over the text of a value and nothing else. -/
def SelfDelimiting (j : Json) : Prop :=
  ∀ rest, Stops rest → PassesOver scanValue (j.chars ++ rest) rest

theorem length_lt_append {cs : List Char} (h : cs ≠ []) (rest : List Char) :
    rest.length < (cs ++ rest).length := by
  have := List.length_pos_iff.2 h
  rw [List.length_append]
  omega

theorem passesOver_numeral {cs : List Char} (h : Numeral cs) (hrest : Stops rest) :
    PassesOver scanValue (cs ++ rest) rest := by
  have hafter := afterNumber?_append h hrest
  obtain ⟨c, t, rfl, hc⟩ := head?_numeral h
  -- No other value begins with a hyphen or a digit.
  have hgap : isGap c = false := by
    rw [Bool.eq_false_iff]
    intro hgap
    simp only [isGap, decide_eq_true_eq] at hgap
    obtain rfl | rfl | rfl | rfl := hgap <;> exact absurd hc (by decide)
  have hskip : skipGaps (c :: t ++ rest) = c :: (t ++ rest) := by
    simp [skipGaps, hgap]
  have hother : ∀ {c' : Char}, ¬ (c' = '-' ∨ isDecimal c' = true) →
      ∀ t', c :: (t ++ rest) ≠ c' :: t' := by
    intro c' hc' t' hcons
    obtain rfl := (List.cons.inj hcons).1
    exact hc' hc
  refine passesOver_scalar hskip ?_ ?_ ?_ (length_lt_append (List.cons_ne_nil c t) rest)
  · rintro rfl
    exact absurd hc (by decide)
  · rintro rfl
    exact absurd hc (by decide)
  · rw [afterScalar?_number (hother (by decide)) (hother (by decide)) (hother (by decide))
      (hother (by decide))]
    exact hafter

theorem quotedChars_append (s : String) (rest : List Char) :
    quotedChars s ++ rest = '"' :: (s.toList.flatMap escapeChar ++ '"' :: rest) := by
  simp [quotedChars]

theorem passesOver_elementChars {es : List Json} (hne : es ≠ []) (h : ∀ e ∈ es, SelfDelimiting e)
    (rest : List Char) : PassesOver scanElements (elementChars es ++ ']' :: rest) rest := by
  induction es with
  | nil => exact absurd rfl hne
  | cons e es ih =>
      have he := h e (.head es)
      cases es with
      | nil => exact passesOver_lastElement (he _ (stops_cons (by simp) rest)) rfl
      | cons e' es =>
          have hes := ih (List.cons_ne_nil _ _) fun x hx => h x (.tail e hx)
          rw [elementChars, List.append_assoc, List.cons_append]
          · exact passesOver_element (he _ (stops_cons (by simp) _)) rfl hes
          · simp

theorem passesOver_memberChars {ms : List (String × Json)} (hne : ms ≠ [])
    (h : ∀ m ∈ ms, SelfDelimiting m.2) (rest : List Char) :
    PassesOver scanMembers (memberChars ms ++ '}' :: rest) rest := by
  induction ms with
  | nil => exact absurd rfl hne
  | cons m ms ih =>
      obtain ⟨k, v⟩ := m
      have hv := h (k, v) (.head ms)
      cases ms with
      | nil =>
          rw [memberChars, List.append_assoc, quotedChars_append]
          exact passesOver_lastMember rfl (readString_quoted k _) rfl
            (hv _ (stops_cons (by simp) rest)) rfl
      | cons m' ms =>
          have hms := ih (List.cons_ne_nil _ _) fun x hx => h x (.tail _ hx)
          rw [memberChars, List.append_assoc, quotedChars_append, List.cons_append,
            List.append_assoc, List.cons_append]
          · exact passesOver_member rfl (readString_quoted k _) rfl
              (hv _ (stops_cons (by simp) _)) rfl hms
          · simp

theorem selfDelimiting (j : Json) : SelfDelimiting j := by
  induction j using induction_mem with
  | null =>
      intro rest _
      have hlen : rest.length < (Json.null.chars ++ rest).length :=
        length_lt_append (by simp [chars]) rest
      exact passesOver_scalar rfl (by decide) (by decide) rfl hlen
  | bool b =>
      intro rest _
      have hlen : rest.length < ((Json.bool b).chars ++ rest).length :=
        length_lt_append (by cases b <;> simp [chars]) rest
      cases b <;> exact passesOver_scalar rfl (by decide) (by decide) rfl hlen
  | num n =>
      intro rest hrest
      rw [chars]
      exact passesOver_numeral (numeral_chars n) hrest
  | str s =>
      intro rest _
      rw [chars, quotedChars_append]
      refine passesOver_scalar rfl (by decide) (by decide) ?_ (by simp; omega)
      rw [afterScalar?, readString_quoted]
      rfl
  | arr es ih =>
      intro rest _
      rw [chars, List.cons_append, List.append_assoc]
      by_cases hes : es = []
      · subst hes
        exact passesOver_emptyArray rfl rfl
      · exact passesOver_array rfl (passesOver_elementChars hes ih rest)
  | obj ms ih =>
      intro rest _
      rw [chars, List.cons_append, List.append_assoc]
      by_cases hms : ms = []
      · subst hms
        exact passesOver_emptyObject rfl rfl
      · exact passesOver_object rfl (passesOver_memberChars hms ih rest)

end DocQuery.Json
