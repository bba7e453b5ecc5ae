import DocQuery.Proofs.Numeric.Numerals
import DocQuery.Settings.Variables

/-! # The texts of settings

A number is one or more digits, perhaps behind a plus sign, that spell a value of sixty-four bits; a
truth value is one of eight words in any case. Both may stand between blanks. The readers accept
exactly these texts.
-/

namespace DocQuery

namespace Text

def Padded (core cs : List Char) : Prop :=
  ∃ before after, (∀ c ∈ before, isBlank c = true) ∧ (∀ c ∈ after, isBlank c = true) ∧
    cs = before ++ core ++ after

variable {core cs before : List Char}

theorem trimStart_append (h : ∀ c ∈ before, isBlank c = true) (cs : List Char) :
    trimStart (before ++ cs) = trimStart cs := by
  induction before with
  | nil => rfl
  | cons c before ih =>
      have hc := h c List.mem_cons_self
      rw [trimStart, List.cons_append, List.dropWhile_cons, if_pos hc]
      exact ih fun x hx => h x (List.mem_cons_of_mem c hx)

theorem trimStart_of_blank (h : ∀ c ∈ cs, isBlank c = true) : trimStart cs = [] := by
  simpa [trimStart] using trimStart_append h []

theorem trimStart_of_head (h : ∀ c, cs.head? = some c → isBlank c = false) :
    trimStart cs = cs := by
  cases cs with
  | nil => rfl
  | cons c cs =>
      have hc : ¬isBlank c = true := by simp [h c rfl]
      rw [trimStart, List.dropWhile_cons, if_neg hc]

theorem padded_trim (cs : List Char) : Padded (trim cs) cs := by
  have hfront : cs = cs.takeWhile isBlank ++ trimStart cs := List.takeWhile_append_dropWhile.symm
  have hback : trimStart cs =
      trim cs ++ ((trimStart cs).reverse.takeWhile isBlank).reverse := by
    rw [trim, ← List.reverse_append, trimStart, trimStart, List.takeWhile_append_dropWhile,
      List.reverse_reverse]
  refine ⟨cs.takeWhile isBlank, ((trimStart cs).reverse.takeWhile isBlank).reverse, ?_, ?_, ?_⟩
  · exact List.all_eq_true.1 List.all_takeWhile
  · exact fun c hc => List.all_eq_true.1 List.all_takeWhile c (List.mem_reverse.1 hc)
  · rw [List.append_assoc, ← hback, ← hfront]

theorem trim_of_padded (h : Padded core cs) (hcore : ∀ c ∈ core, isBlank c = false) :
    trim cs = core := by
  obtain ⟨before, after, hbefore, hafter, rfl⟩ := h
  have hafter' : ∀ c ∈ after.reverse, isBlank c = true :=
    fun c hc => hafter c (List.mem_reverse.1 hc)
  rw [trim, List.append_assoc, trimStart_append hbefore]
  by_cases hne : core = []
  · subst hne
    rw [List.nil_append, trimStart_of_blank hafter]
    rfl
  · have hfirst : ∀ c, (core ++ after).head? = some c → isBlank c = false := by
      cases core with
      | nil => exact absurd rfl hne
      | cons d core =>
          rintro c ⟨rfl⟩
          exact hcore d List.mem_cons_self
    have hlast : ∀ c, core.reverse.head? = some c → isBlank c = false :=
      fun c hc => hcore c (List.mem_reverse.1 (List.mem_of_head? hc))
    rw [trimStart_of_head hfirst, List.reverse_append, trimStart_append hafter',
      trimStart_of_head hlast, List.reverse_reverse]

theorem isDecimal_iff {c : Char} : isDecimal c = true ↔ 48 ≤ c.toNat ∧ c.toNat ≤ 57 := by
  simp only [isDecimal, decide_eq_true_eq, Char.le_def, UInt32.le_iff_toNat_le]
  rfl

theorem isBlank_iff {c : Char} :
    isBlank c = true ↔ ∃ i ∈ blanks.intervals, i.1 ≤ c.toNat ∧ c.toNat ≤ i.2 :=
  CharSet.contains_iff

theorem isBlank_of_isDecimal {c : Char} (h : isDecimal c = true) : isBlank c = false := by
  have hc := isDecimal_iff.1 h
  rw [← Bool.not_eq_true, isBlank_iff]
  simp only [blanks, List.mem_cons, List.not_mem_nil, or_false, exists_eq_or_imp, exists_eq_left]
  omega

/-- Blanks have no case. -/
theorem toLower_of_isBlank {c : Char} (h : isBlank c = true) : c.toLower = c := by
  have hupper : ¬(65 ≤ c.toNat ∧ c.toNat ≤ 90) := by
    rw [isBlank_iff] at h
    simp only [blanks, List.mem_cons, List.not_mem_nil, or_false, exists_eq_or_imp,
      exists_eq_left] at h
    omega
  refine dif_neg fun hval => hupper ?_
  exact ⟨UInt32.le_iff_toNat_le.1 hval.1, UInt32.le_iff_toNat_le.1 hval.2⟩

end Text

namespace Settings

open Text

/-! ## Numbers -/

inductive WrittenNumber : List Char → Nat → Prop where
  | bare {ds : List Char} (hne : ds ≠ []) (hds : ∀ c ∈ ds, isDecimal c = true) :
      WrittenNumber ds (decimalValue ds)
  | plus {ds : List Char} (hne : ds ≠ []) (hds : ∀ c ∈ ds, isDecimal c = true) :
      WrittenNumber ('+' :: ds) (decimalValue ds)

def IsNumber (text : String) (n : UInt64) : Prop :=
  ∃ core, Padded core text.toList ∧ WrittenNumber core n.toNat

/-- The number that digits spell behind those that spell `high`. -/
def spelled (high : Nat) (ds : List Char) : Nat :=
  ds.foldl (fun n c => 10 * n + (c.toNat - '0'.toNat)) high

theorem le_spelled (high : Nat) (ds : List Char) : high ≤ spelled high ds := by
  induction ds generalizing high with
  | nil => exact Nat.le_refl high
  | cons c ds ih =>
      have hnext : 10 * high + (c.toNat - '0'.toNat) ≤ spelled high (c :: ds) := ih _
      omega

theorem readDigits_cons (high : Nat) (c : Char) (cs : List Char) :
    readDigits high (c :: cs) =
      if isDecimal c then
        if 10 * high + (c.toNat - '0'.toNat) < 18446744073709551616 then
          readDigits (10 * high + (c.toNat - '0'.toNat)) cs
        else .error .tooLarge
      else .error .invalidDigit := by
  rw [readDigits]
  simp [decimalValue]

/-- Digits are read exactly if they are digits and their number is not too large: it only grows, so
that it is too large in the end if it is too large at some digit. -/
theorem readDigits_eq_ok {high n : Nat} {cs : List Char} (hhigh : high < 18446744073709551616) :
    readDigits high cs = .ok n ↔
      (∀ c ∈ cs, isDecimal c = true) ∧ spelled high cs = n ∧ n < 18446744073709551616 := by
  induction cs generalizing high with
  | nil =>
      simp only [readDigits, Except.ok.injEq, spelled, List.foldl_nil]
      constructor
      · rintro rfl
        exact ⟨by simp, rfl, hhigh⟩
      · exact fun h => h.2.1
  | cons c cs ih =>
      have hspelled : spelled high (c :: cs) =
          spelled (10 * high + (c.toNat - '0'.toNat)) cs := rfl
      have hle := le_spelled (10 * high + (c.toNat - '0'.toNat)) cs
      rw [readDigits_cons]
      by_cases hc : isDecimal c = true
      · rw [if_pos hc]
        by_cases hn : 10 * high + (c.toNat - '0'.toNat) < 18446744073709551616
        · rw [if_pos hn, ih hn, hspelled]
          simp [hc]
        · rw [if_neg hn]
          constructor
          · intro h
            cases h
          · rintro ⟨-, hvalue, hlt⟩
            rw [hspelled] at hvalue
            omega
      · rw [if_neg hc]
        constructor
        · intro h
          cases h
        · rintro ⟨hds, -, -⟩
          exact absurd (hds c List.mem_cons_self) hc

theorem readNumber_bare {ds : List Char} (hne : ds ≠ []) (hds : ∀ c ∈ ds, isDecimal c = true) :
    readNumber ds = readDigits 0 ds := by
  have hplus : isDecimal '+' = false := by decide
  rw [readNumber.eq_def]
  split
  · exact absurd rfl hne
  · simp [hplus] at hds
  · simp [hplus] at hds
  · rfl

theorem readNumber_plus {ds : List Char} (hne : ds ≠ []) :
    readNumber ('+' :: ds) = readDigits 0 ds := by
  cases ds with
  | nil => exact absurd rfl hne
  | cons d ds => rfl

theorem readNumber_eq_ok {cs : List Char} {n : Nat} :
    readNumber cs = .ok n ↔ WrittenNumber cs n ∧ n < 18446744073709551616 := by
  have hzero : 0 < 18446744073709551616 := by omega
  constructor
  · intro h
    rw [readNumber.eq_def] at h
    split at h
    · cases h
    · cases h
    · rename_i ds hne
      obtain ⟨hds, rfl, hlt⟩ := (readDigits_eq_ok hzero).1 h
      exact ⟨.plus (fun hnil => hne (by rw [hnil])) hds, hlt⟩
    · rename_i hne _ _
      obtain ⟨hds, rfl, hlt⟩ := (readDigits_eq_ok hzero).1 h
      exact ⟨.bare hne hds, hlt⟩
  · rintro ⟨hwritten, hlt⟩
    cases hwritten with
    | bare hne hds =>
        rw [readNumber_bare hne hds]
        exact (readDigits_eq_ok hzero).2 ⟨hds, rfl, hlt⟩
    | plus hne hds =>
        rw [readNumber_plus hne]
        exact (readDigits_eq_ok hzero).2 ⟨hds, rfl, hlt⟩

theorem WrittenNumber.solid {cs : List Char} {n : Nat} (h : WrittenNumber cs n) :
    ∀ c ∈ cs, isBlank c = false := by
  cases h with
  | bare hne hds => exact fun c hc => isBlank_of_isDecimal (hds c hc)
  | plus hne hds =>
      intro c hc
      rcases List.mem_cons.1 hc with rfl | hc
      · decide
      · exact isBlank_of_isDecimal (hds c hc)

/-- The reader of numbers accepts what stands for a number, and reads that number. -/
theorem number_eq_ok {text : String} {n : UInt64} : number text = .ok n ↔ IsNumber text n := by
  have hread : number text = .ok n ↔ readNumber (trim text.toList) = .ok n.toNat := by
    rw [number]
    cases hk : readNumber (trim text.toList) with
    | error reason => simp [Except.map]
    | ok k =>
        have hlt := (readNumber_eq_ok.1 hk).2
        simp only [Except.map, Except.ok.injEq]
        rw [← UInt64.toNat_inj, UInt64.toNat_ofNat_of_lt' hlt]
  rw [hread, readNumber_eq_ok]
  constructor
  · rintro ⟨hwritten, -⟩
    exact ⟨_, padded_trim _, hwritten⟩
  · rintro ⟨core, hpadded, hwritten⟩
    rw [trim_of_padded hpadded hwritten.solid]
    exact ⟨hwritten, n.toNat_lt⟩

theorem isNumber_decimal {text : String} {n : UInt64}
    (h : Padded (decimalChars n.toNat) text.toList) : IsNumber text n := by
  have hwritten := WrittenNumber.bare (decimalChars_ne_nil n.toNat)
    fun _ hc => isDecimal_of_mem_decimalChars hc
  rw [decimalValue_decimalChars] at hwritten
  exact ⟨_, h, hwritten⟩

/-! ## Truth values -/

def wordsFor : Bool → List String
  | true => ["1", "true", "yes", "on"]
  | false => ["0", "false", "no", "off"]

def booleanChars : Bool → List Char
  | true => "true".toList
  | false => "false".toList

def IsBoolean (text : String) (b : Bool) : Prop :=
  ∃ core, Padded core text.toList ∧ String.ofList (core.map Char.toLower) ∈ wordsFor b

theorem solid_of_word {core : List Char} {b : Bool}
    (h : String.ofList (core.map Char.toLower) ∈ wordsFor b) : ∀ c ∈ core, isBlank c = false := by
  have hwords : (wordsFor b).all (·.toList.all (!isBlank ·)) = true := by cases b <;> decide
  intro c hc
  have hlower := List.all_eq_true.1 (List.all_eq_true.1 hwords _ h) c.toLower
    (by simpa using ⟨c, hc, rfl⟩)
  rw [Bool.not_eq_true'] at hlower
  cases hblank : isBlank c with
  | false => rfl
  | true => rw [toLower_of_isBlank hblank, hblank] at hlower; exact hlower

theorem boolean_eq_ok {text : String} {b : Bool} : boolean text = .ok b ↔ IsBoolean text b := by
  have hdisjoint : ∀ word ∈ wordsFor true, word ∉ wordsFor false := by decide
  have hread : boolean text = .ok b ↔
      String.ofList ((trim text.toList).map Char.toLower) ∈ wordsFor b := by
    rw [boolean]
    generalize String.ofList ((trim text.toList).map Char.toLower) = word
    show (if word ∈ wordsFor true then Except.ok true
      else if word ∈ wordsFor false then .ok false else .error Reason.notBoolean) = .ok b ↔ _
    by_cases ht : word ∈ wordsFor true
    · cases b <;> simp [ht, hdisjoint word ht]
    · by_cases hf : word ∈ wordsFor false <;> cases b <;> simp [ht, hf]
  rw [hread]
  constructor
  · exact fun h => ⟨_, padded_trim _, h⟩
  · rintro ⟨core, hpadded, hword⟩
    rwa [trim_of_padded hpadded (solid_of_word hword)]

theorem isBoolean_word {text : String} {b : Bool} (h : Padded (booleanChars b) text.toList) :
    IsBoolean text b := by
  refine ⟨_, h, ?_⟩
  cases b <;> decide

end Settings
end DocQuery
