import DocQuery.Numeric.Style

/-! # The texts of numbers

What is written for an integer or a finite double is a numeral: an optional hyphen, digits of which
the first of several is not zero, perhaps a point with digits after it, perhaps an exponent. -/

namespace DocQuery

namespace Text

theorem isDecimal_of_mem_decimalChars {n : Nat} {c : Char} (h : c ∈ decimalChars n) :
    isDecimal c = true := by
  have hdigit : c.isDigit = true := Nat.isDigit_of_mem_toDigits (by omega) (by omega) h
  simp only [Char.isDigit, Bool.and_eq_true, decide_eq_true_eq] at hdigit
  exact decide_eq_true ⟨hdigit.1, hdigit.2⟩

theorem decimalChars_ne_nil (n : Nat) : decimalChars n ≠ [] := Nat.toDigits_ne_nil

/-- Only zero is written with a zero in front. -/
theorem eq_zero_of_decimalChars {n : Nat} {t : List Char} (h : decimalChars n = '0' :: t) :
    n = 0 := by
  induction n using Nat.strongRecOn generalizing t with
  | ind n ih =>
      rcases Nat.lt_or_ge n 10 with hn | hn
      · rw [decimalChars, Nat.toDigits_of_lt_base hn] at h
        have hzero : ∀ d < 10, Nat.digitChar d = '0' → d = 0 := by decide
        exact hzero n hn (List.cons.inj h).1
      · rw [decimalChars, Nat.toDigits_of_base_le (by omega) hn] at h
        cases htens : Nat.toDigits 10 (n / 10) with
        | nil => exact absurd htens Nat.toDigits_ne_nil
        | cons d ds =>
            rw [htens, List.cons_append] at h
            obtain rfl := (List.cons.inj h).1
            have := ih (n / 10) (by omega) htens
            omega

theorem decimalValue_concat (ds : List Char) (d : Char) :
    decimalValue (ds ++ [d]) = 10 * decimalValue ds + (d.toNat - '0'.toNat) := by
  simp only [decimalValue, List.foldl_append, List.foldl_cons, List.foldl_nil]

theorem decimalValue_decimalChars (n : Nat) : decimalValue (decimalChars n) = n := by
  have hdigit : ∀ d < 10, (Nat.digitChar d).toNat - '0'.toNat = d := by decide
  induction n using Nat.strongRecOn with
  | ind n ih =>
      rcases Nat.lt_or_ge n 10 with hn | hn
      · rw [decimalChars, Nat.toDigits_of_lt_base hn]
        have hsingle := decimalValue_concat [] (Nat.digitChar n)
        rw [hdigit n hn] at hsingle
        simpa [decimalValue] using hsingle
      · have htens : decimalValue (Nat.toDigits 10 (n / 10)) = n / 10 := ih (n / 10) (by omega)
        have hlast := hdigit (n % 10) (Nat.mod_lt n (by omega))
        rw [decimalChars, Nat.toDigits_of_base_le (by omega) hn, decimalValue_concat, htens, hlast]
        omega

end Text

namespace Numeric

open Text

structure Digits (ds : List Char) : Prop where
  ne_nil : ds ≠ []
  decimal : ∀ c ∈ ds, isDecimal c = true

/-- The digits before the point, where a zero stands alone. -/
structure Whole (ds : List Char) : Prop extends Digits ds where
  zero_alone : ∀ t, ds = '0' :: t → t = []

inductive Fraction : List Char → Prop where
  | none : Fraction []
  | places {ds : List Char} (h : Digits ds) : Fraction ('.' :: ds)

inductive Exponent : List Char → Prop where
  | none : Exponent []
  | signed {sign : Char} {ds : List Char} (hsign : sign = '+' ∨ sign = '-') (h : Digits ds) :
      Exponent ('e' :: sign :: ds)

inductive Magnitude : List Char → Prop where
  | mk {ws fs es : List Char} (hw : Whole ws) (hf : Fraction fs) (he : Exponent es) :
      Magnitude (ws ++ (fs ++ es))

inductive Numeral : List Char → Prop where
  | plain {cs : List Char} (h : Magnitude cs) : Numeral cs
  | hyphen {cs : List Char} (h : Magnitude cs) : Numeral ('-' :: cs)

theorem Digits.prepend {ds zs : List Char} (h : Digits ds) (hz : ∀ c ∈ zs, isDecimal c = true) :
    Digits (zs ++ ds) where
  ne_nil := List.append_ne_nil_of_right_ne_nil zs h.ne_nil
  decimal c hc := (List.mem_append.1 hc).elim (hz c) (h.decimal c)

theorem isDecimal_of_mem_zeros {n : Nat} {c : Char} (h : c ∈ List.replicate n '0') :
    isDecimal c = true := by
  rw [List.eq_of_mem_replicate h]
  decide

theorem digits_decimalChars (n : Nat) : Digits (decimalChars n) where
  ne_nil := decimalChars_ne_nil n
  decimal _ h := isDecimal_of_mem_decimalChars h

theorem whole_decimalChars (n : Nat) : Whole (decimalChars n) where
  toDigits := digits_decimalChars n
  zero_alone t h := by
    obtain rfl := eq_zero_of_decimalChars h
    exact (List.cons.inj h).2.symm

theorem whole_digit {c : Char} (h : isDecimal c = true) : Whole [c] where
  ne_nil := List.cons_ne_nil c []
  decimal _ hm := List.mem_singleton.1 hm ▸ h
  zero_alone _ ht := (List.cons.inj ht).2.symm

theorem Whole.take {ds : List Char} {n : Nat} (h : Whole ds) (hn : ds.take n ≠ []) :
    Whole (ds.take n) where
  ne_nil := hn
  decimal c hc := h.decimal c (List.mem_of_mem_take hc)
  zero_alone t ht := by
    have hds : ds = '0' :: (t ++ ds.drop n) := by
      rw [← List.cons_append, ← ht, List.take_append_drop]
    exact (List.append_eq_nil_iff.1 (h.zero_alone _ hds)).1

theorem Whole.magnitude {ds : List Char} (h : Whole ds) : Magnitude ds := by
  have := Magnitude.mk h .none .none
  simpa using this

theorem numeral_intChars (n : Int) : Numeral (intChars n) := by
  cases n with
  | ofNat n => exact .plain (whole_decimalChars n).magnitude
  | negSucc n => exact .hyphen (whole_decimalChars (n + 1)).magnitude

namespace Style

/-- Zeros are put before the point only behind digits that are not zero themselves. -/
theorem magnitude_positional {d : Decimal} (h : d.digits = 0 → d.power ≤ 0) :
    Magnitude (positional d) := by
  have hds := whole_decimalChars d.digits
  unfold positional
  dsimp only
  split
  · rename_i p hp
    have hwhole : Whole (decimalChars d.digits ++ List.replicate p '0') :=
      { ne_nil := List.append_ne_nil_of_left_ne_nil hds.ne_nil _
        decimal := fun c hc =>
          (List.mem_append.1 hc).elim (hds.decimal c) fun hz => isDecimal_of_mem_zeros hz
        zero_alone := by
          intro t ht
          cases hcs : decimalChars d.digits with
          | nil => exact absurd hcs hds.ne_nil
          | cons c cs =>
              rw [hcs, List.cons_append] at ht
              obtain ⟨rfl, rfl⟩ := List.cons.inj ht
              have hpower := h (eq_zero_of_decimalChars hcs)
              have hp0 : p = 0 := by
                rw [hp] at hpower
                exact Int.ofNat_eq_zero.1 (Int.le_antisymm hpower (Int.natCast_nonneg p))
              rw [hp0, hds.zero_alone cs hcs]
              rfl }
    exact .mk hwhole (.places (whole_digit (by decide)).toDigits) .none
  · rename_i p hp
    split
    · rename_i hplaces
      have htake :
          (decimalChars d.digits).take ((decimalChars d.digits).length - (p + 1)) ≠ [] := by
        rw [← List.length_pos_iff, List.length_take]
        omega
      have hdrop : Digits
          ((decimalChars d.digits).drop ((decimalChars d.digits).length - (p + 1))) := by
        constructor
        · rw [← List.length_pos_iff, List.length_drop]
          omega
        · exact fun c hc => hds.decimal c (List.mem_of_mem_drop hc)
      have := Magnitude.mk (hds.take htake) (.places hdrop) .none
      rwa [List.append_nil] at this
    · have hplaces := hds.toDigits.prepend fun c hc =>
        isDecimal_of_mem_zeros (n := p + 1 - (decimalChars d.digits).length) hc
      have := Magnitude.mk (whole_digit (c := '0') (by decide)) (.places hplaces) .none
      rwa [List.append_nil] at this

theorem magnitude_scientific {s : Style} (hs : s.plus = "+") (d : Decimal) :
    Magnitude (s.scientific d) := by
  have hds := digits_decimalChars d.digits
  have hone : ∀ {first : Char} {es : List Char}, decimalChars d.digits = [first] → Exponent es →
      Magnitude ([first] ++ es) := by
    intro first es hfirst he
    rw [hfirst] at hds
    exact .mk (whole_digit (hds.decimal first (.head _))) .none he
  have hmore : ∀ {first : Char} {rest es : List Char}, decimalChars d.digits = first :: rest →
      (rest = [] → False) → Exponent es → Magnitude (first :: '.' :: rest ++ es) := by
    intro first rest es hfirst hrest he
    rw [hfirst] at hds
    have hplaces : Digits rest := ⟨hrest, fun c hc => hds.decimal c (.tail _ hc)⟩
    exact .mk (whole_digit (hds.decimal first (.head _))) (.places hplaces) he
  unfold scientific
  rw [hs]
  dsimp only
  cases d.leading with
  | ofNat e =>
      have hexponent : Exponent ('e' :: '+' :: decimalChars e) :=
        .signed (.inl rfl) (digits_decimalChars e)
      split
      · exact hone ‹_› hexponent
      · exact hmore ‹_› ‹_› hexponent
      · exact absurd ‹_› hds.ne_nil
  | negSucc e =>
      have hexponent : Exponent ('e' :: '-' :: decimalChars (e + 1)) :=
        .signed (.inr rfl) (digits_decimalChars (e + 1))
      split
      · exact hone ‹_› hexponent
      · exact hmore ‹_› ‹_› hexponent
      · exact absurd ‹_› hds.ne_nil

end Style

/-! ## The digits of a double -/

namespace Decimal

theorem digits_stripAux {d : Decimal} (h : d.digits ≠ 0) (fuel : Nat) :
    (stripAux fuel d).digits ≠ 0 := by
  induction fuel generalizing d with
  | zero => exact h
  | succ fuel ih =>
      rw [stripAux]
      split
      · rename_i hzero
        have hten : d.digits / 10 ≠ 0 := by omega
        exact ih hten
      · exact h

theorem digits_strip {d : Decimal} (h : d.digits ≠ 0) : d.strip.digits ≠ 0 := digits_stripAux h _

end Decimal

namespace Shortest

theorem powRatio_pos {b : Nat} (hb : 0 < b) (k : Int) :
    0 < (powRatio b k).1 ∧ 0 < (powRatio b k).2 := by
  unfold powRatio
  split
  · exact ⟨Nat.pow_pos hb, Nat.one_pos⟩
  · exact ⟨Nat.one_pos, Nat.pow_pos hb⟩

theorem digits_onGrid? {i : Interval} {k : Int} {d : Decimal} (hi : 0 < i.low)
    (h : onGrid? i k = some d) : d.digits ≠ 0 := by
  have hunit := powRatio_pos (b := 2) (by decide) i.unitPower
  have hten := powRatio_pos (b := 10) (by decide) k
  have hlow : 0 < i.low * (powRatio 2 i.unitPower).1 * (powRatio 10 k).2 :=
    Nat.mul_pos (Nat.mul_pos hi hunit.1) hten.2
  have hzero : ∀ low step high : Nat, 0 < low →
      (if i.closed = true then decide (low ≤ 0 * step) && decide (0 * step ≤ high)
        else decide (low < 0 * step) && decide (0 * step < high)) ≠ true := by
    intro low step high hpos hfits
    rw [Nat.zero_mul] at hfits
    split at hfits
    · have hle := of_decide_eq_true (Bool.and_eq_true_iff.1 hfits).1
      omega
    · have hlt := of_decide_eq_true (Bool.and_eq_true_iff.1 hfits).1
      omega
  unfold onGrid? at h
  dsimp only at h
  generalize i.value * (powRatio 2 i.unitPower).1 * (powRatio 10 k).2 /
    ((powRatio 10 k).1 * (powRatio 2 i.unitPower).2) = below at h
  split at h
  · rename_i hbelow _
    obtain rfl := Option.some.inj h
    dsimp only
    split
    · exact Nat.succ_ne_zero below
    · rintro rfl
      exact hzero _ _ _ hlow hbelow
  · rename_i hbelow _
    obtain rfl := Option.some.inj h
    rintro rfl
    exact hzero _ _ _ hlow hbelow
  · obtain rfl := Option.some.inj h
    exact Nat.succ_ne_zero below
  · cases h

theorem digits_searchAux {i : Interval} (hi : 0 < i.low) (top : Int) (fuel count : Nat) :
    (searchAux i top fuel count).digits = 0 → (searchAux i top fuel count).power ≤ 0 := by
  induction fuel generalizing count with
  | zero => exact fun _ => Int.le_refl 0
  | succ fuel ih =>
      rw [searchAux]
      split
      · rename_i d hd
        exact fun hzero => absurd hzero (Decimal.digits_strip (digits_onGrid? hi hd))
      · exact ih (count + 1)

/-- Half a unit in the last place below a double that is not zero is still above zero. -/
theorem low_interval_pos {x : Binary64} (h : x.isZero = false) : 0 < (interval x).low := by
  have hm : x.mantissa ≠ 0 := by
    simp only [Binary64.isZero, decide_eq_false_iff_not] at h
    unfold Binary64.mantissa Binary64.exponentBits Binary64.fractionBits
    split <;> omega
  unfold interval
  dsimp only
  split <;> omega

end Shortest

theorem Binary64.digits_shortest (x : Binary64) : x.shortest.digits = 0 → x.shortest.power ≤ 0 := by
  unfold shortest
  split
  · exact fun _ => Int.le_refl 0
  · rename_i hzero
    exact Shortest.digits_searchAux (Shortest.low_interval_pos (Bool.not_eq_true _ ▸ hzero)) _ _ _

theorem numeral_writeBinary64 {s : Style} (hs : s.plus = "+") (x : Binary64) :
    Numeral (s.writeBinary64 x) := by
  have hmagnitude : Magnitude
      (if s.lowest ≤ x.shortest.leading ∧ x.shortest.leading ≤ s.highest then
        Style.positional x.shortest else s.scientific x.shortest) := by
    split
    · exact Style.magnitude_positional x.digits_shortest
    · exact Style.magnitude_scientific hs _
  unfold Style.writeBinary64 Style.write
  dsimp only
  split
  · exact .hyphen hmagnitude
  · exact .plain hmagnitude

end Numeric
end DocQuery
