import DocQuery.Function.Evaluate
import DocQuery.Proofs.Numeric.Doubles

/-! # Identical values

Identity is symmetric and transitive. The functions take identical values for one another, in either
place, and patterns do so too unless the two values are the zeros of either sign: their texts
differ, and a pattern is matched with texts.
-/

namespace DocQuery

open Numeric Text

namespace Script

theorem identical_comm (a b : Json) : identical a b = identical b a := by
  cases a <;> cases b <;> simp only [identical, Binary64.numEq_comm, eq_comm]

/-- Identical values are the same value, or numbers with equal doubles. -/
theorem eq_or_numbers_of_identical {a b : Json} (h : identical a b = true) :
    a = b ∨ ∃ m n, a = .num m ∧ b = .num n ∧ m.toBinary64.numEq n.toBinary64 = true := by
  unfold identical at h
  split at h
  · exact .inl rfl
  · exact .inl (congrArg Json.bool (of_decide_eq_true h))
  · exact .inr ⟨_, _, rfl, rfl, h⟩
  · exact .inl (congrArg Json.str (of_decide_eq_true h))
  · cases h

theorem identical_trans {a b c : Json} (hab : identical a b = true)
    (hbc : identical b c = true) : identical a c = true := by
  rcases eq_or_numbers_of_identical hab with rfl | ⟨m, n, rfl, rfl, hmn⟩
  · exact hbc
  · rcases eq_or_numbers_of_identical hbc with rfl | ⟨n', k, hn, rfl, hnk⟩
    · exact hab
    · obtain rfl := Json.num.inj hn
      exact Binary64.numEq_trans hmn hnk

theorem identical_congr {a b : Json} (h : identical a b = true) (e : Json) :
    identical e a = identical e b := by
  rw [Bool.eq_iff_iff]
  constructor
  · exact fun he => identical_trans he h
  · intro he
    rw [identical_comm] at h
    exact identical_trans he h

/-! ## Texts of numbers -/

theorem text_num (n : Json.Number) : text (.num n) = numberText n := rfl

theorem text_str (s : String) : text (.str s) = s.toList := rfl

theorem numberText_of_whole {n : Json.Number} {m : Nat}
    (h : n.toBinary64.wholeMagnitude? = some m) (hm : m < 1000000000000000000000) :
    numberText n =
      if n.toBinary64.negative then '-' :: decimalChars m else decimalChars m := by
  unfold numberText
  simp only [h, if_pos hm]

theorem numberText_congr {a b : Json.Number} (h : a.toBinary64 = b.toBinary64) :
    numberText a = numberText b := by
  have hint : ∀ {n : Json.Integer} {b : Json.Number},
      (Json.Number.int n).toBinary64 = b.toBinary64 → numberText (.int n) = numberText b := by
    intro n b h
    have hlt : n.val.natAbs < 0x10000000000000000 := by
      have hlower := n.lower
      have hupper := n.upper
      omega
    obtain ⟨m, hwhole, hm⟩ := Binary64.wholeMagnitude?_ofInt hlt
    have hn : (Json.Number.int n).toBinary64.wholeMagnitude? = some m := hwhole
    have hb : b.toBinary64.wholeMagnitude? = some m := h ▸ hn
    rw [numberText_of_whole hn hm, numberText_of_whole hb hm, h]
  cases a with
  | int n => exact hint h
  | float x =>
      cases b with
      | int n => exact (hint h.symm).symm
      | float y =>
          obtain ⟨x, hx⟩ := x
          obtain ⟨y, hy⟩ := y
          obtain rfl : x = y := h
          rfl

theorem numberText_of_isZero {n : Json.Number} (h : n.toBinary64.isZero = true) :
    numberText n = if n.toBinary64.negative then ['-', '0'] else ['0'] :=
  numberText_of_whole (Binary64.wholeMagnitude?_of_isZero h) (by decide)

def isNegativeZero : Json → Bool
  | .num n => n.toBinary64.isZero && n.toBinary64.negative
  | _ => false

end Script

namespace ServerFunction

open Script Pattern

/-- A function takes two values for one another, in either place. -/
def Alike (f : ServerFunction) (a b : Json) : Prop :=
  ∀ o, f.eval a o = f.eval b o ∧ f.eval o a = f.eval o b

theorem alike_of_ne_pattern {f : ServerFunction} (hf : f ≠ .pattern) {a b : Json}
    (h : identical a b = true) : f.Alike a b := by
  intro o
  rcases eq_or_numbers_of_identical h with rfl | ⟨m, n, rfl, rfl, -⟩
  · exact ⟨rfl, rfl⟩
  · have hcongr : (fun e => identical e (.num m)) = fun e => identical e (.num n) :=
      funext (identical_congr h)
    cases f with
    | membership => exact ⟨rfl, by simp only [eval, hcongr]⟩
    | uniformity => exact ⟨rfl, by simp only [eval, hcongr]⟩
    | size => exact ⟨rfl, by simp only [eval, hcongr]⟩
    | pattern => exact absurd rfl hf
    | type => exact ⟨rfl, rfl⟩

theorem matchesPattern_congr {a b : Json} (h : Script.text a = Script.text b) (o : Json) :
    matchesPattern a o = matchesPattern b o := by
  unfold matchesPattern
  rw [h]

theorem ofOperand?_num (n : Json.Number) :
    PatternText.ofOperand? (.num n) = some ⟨numberText n, []⟩ := rfl

theorem alike_pattern_of_numberText {m n : Json.Number} (h : numberText m = numberText n) :
    pattern.Alike (.num m) (.num n) := by
  intro o
  constructor
  · have htext : Script.text (.num m) = Script.text (.num n) := by
      rw [text_num, text_num, h]
    exact matchesPattern_congr htext o
  · have hoperand : PatternText.ofOperand? (.num m) = PatternText.ofOperand? (.num n) := by
      rw [ofOperand?_num, ofOperand?_num, h]
    change matchesPattern o (.num m) = matchesPattern o (.num n)
    unfold matchesPattern
    rw [hoperand]

/-- A pattern that is found in the text of a negative zero and not in that of zero. -/
theorem not_alike_zeros {m n : Json.Number} (hm : numberText m = ['-', '0'])
    (hn : numberText n = ['0']) : ¬ pattern.Alike (.num m) (.num n) := by
  intro h
  have hhyphen : matchesPattern (.num m) (.str "-") = matchesPattern (.num n) (.str "-") :=
    (h (.str "-")).1
  have htext : Script.text (.num m) = Script.text (.str "-0") := by
    rw [text_num, hm, text_str]
    rfl
  have htext' : Script.text (.num n) = Script.text (.str "0") := by
    rw [text_num, hn, text_str]
    rfl
  have hfound : matchesPattern (.str "-0") (.str "-") = true := by decide +kernel
  have hmissing : matchesPattern (.str "0") (.str "-") = false := by decide +kernel
  rw [matchesPattern_congr htext, matchesPattern_congr htext', hfound, hmissing] at hhyphen
  cases hhyphen

theorem Alike.symm {f : ServerFunction} {a b : Json} (h : f.Alike a b) : f.Alike b a :=
  fun o => ⟨(h o).1.symm, (h o).2.symm⟩

theorem alike_pattern_iff {a b : Json} (h : identical a b = true) :
    pattern.Alike a b ↔ isNegativeZero a = isNegativeZero b := by
  rcases eq_or_numbers_of_identical h with rfl | ⟨m, n, rfl, rfl, hmn⟩
  · exact iff_of_true (fun o => ⟨rfl, rfl⟩) rfl
  · obtain ⟨-, -, heq | ⟨hm, hn⟩⟩ := Binary64.numEq_iff.1 hmn
    · refine iff_of_true (alike_pattern_of_numberText (numberText_congr heq)) ?_
      simp only [isNegativeZero, heq]
    · have htm := numberText_of_isZero hm
      have htn := numberText_of_isZero hn
      simp only [isNegativeZero, hm, hn, Bool.true_and]
      cases hsm : m.toBinary64.negative <;> cases hsn : n.toBinary64.negative <;>
        rw [hsm] at htm <;> rw [hsn] at htn
      · exact iff_of_true (alike_pattern_of_numberText (htm.trans htn.symm)) rfl
      · exact iff_of_false (fun h => not_alike_zeros htn htm h.symm) (by decide)
      · exact iff_of_false (not_alike_zeros htm htn) (by decide)
      · exact iff_of_true (alike_pattern_of_numberText (htm.trans htn.symm)) rfl

/-- Identity is symmetric and transitive, and the functions take identical values for one another.
Patterns do so as well, except that they tell a negative zero from the other zeros. -/
theorem functions_respect_identity (a b : Json) :
    identical a b = identical b a ∧
    (∀ c, identical a b = true → identical b c = true → identical a c = true) ∧
    (identical a b = true →
      (∀ f : ServerFunction, f ≠ .pattern → f.Alike a b) ∧
      (pattern.Alike a b ↔ isNegativeZero a = isNegativeZero b)) := by
  refine ⟨identical_comm a b, fun c => identical_trans, ?_⟩
  intro h
  exact ⟨fun f hf => alike_of_ne_pattern hf h, alike_pattern_iff h⟩

/-- An odd integer that no double is equal to. -/
def oddInteger : Json := .num (.int ⟨0x20000000000001, by decide, by decide⟩)

def evenDouble : Json := .num (.float ⟨⟨0x4340000000000000⟩, by decide⟩)

theorem rounded_integer_respected :
    identical oddInteger evenDouble = true ∧ membership.Alike oddInteger evenDouble ∧
      pattern.Alike oddInteger evenDouble := by
  have h : identical oddInteger evenDouble = true := by decide +kernel
  obtain ⟨-, -, hrespected⟩ := functions_respect_identity oddInteger evenDouble
  obtain ⟨hfunctions, hpattern⟩ := hrespected h
  exact ⟨h, hfunctions .membership (by decide), hpattern.2 (by decide +kernel)⟩

/-- Zero and negative zero are identical, and a pattern tells them apart. -/
theorem negative_zero_told_apart :
    identical (.num (.int ⟨0, by decide, by decide⟩)) (.num (.float ⟨.zero true, by decide⟩)) =
        true ∧
      pattern.eval (.num (.int ⟨0, by decide, by decide⟩)) (.str "-") = false ∧
      pattern.eval (.num (.float ⟨.zero true, by decide⟩)) (.str "-") = true := by
  decide +kernel

end ServerFunction
end DocQuery
