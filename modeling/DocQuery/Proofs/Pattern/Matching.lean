import DocQuery.Pattern.Match
import Mathlib.Data.Nat.Bitwise
import Mathlib.Logic.Function.Iterate

/-! # Matching from several positions at once

Where the matches end that begin at some positions is found for each position apart, so that more
positions to begin at give more matches. A sequence of expressions is matched by one after the
other, however it has been simplified; behind the start of a text, it is matched from the first
position only.
-/

namespace DocQuery.Pattern

open Text

namespace Positions

/-- A function that treats each position by itself. -/
structure Additive (f : Positions → Positions) : Prop where
  zero : f 0 = 0
  or (s t : Positions) : f (s ||| t) = f s ||| f t

theorem Additive.comp {f g : Positions → Positions} (hf : Additive f) (hg : Additive g) :
    Additive fun s => g (f s) where
  zero := by rw [hf.zero, hg.zero]
  or s t := by rw [hf.or, hg.or]

theorem Additive.iterate {f : Positions → Positions} (hf : Additive f) (count : Nat) :
    Additive f^[count] := by
  induction count with
  | zero => exact ⟨rfl, fun s t => rfl⟩
  | succ count ih =>
      constructor
      · rw [Function.iterate_succ_apply, hf.zero, ih.zero]
      · intro s t
        simp only [Function.iterate_succ_apply, hf.or, ih.or]

theorem Additive.ne_zero_of_and {f : Positions → Positions} (hf : Additive f)
    {s t : Positions} (h : f (s &&& t) ≠ 0) : f s ≠ 0 := by
  have hsplit : s = s &&& t ||| s := by
    apply Nat.eq_of_testBit_eq
    intro i
    simp only [Nat.testBit_or, Nat.testBit_and]
    cases s.testBit i <;> cases t.testBit i <;> rfl
  intro hzero
  rw [hsplit, hf.or] at hzero
  exact h (Nat.or_eq_zero_iff.1 hzero).1

theorem or_minus (s t : Positions) : t ||| minus s t = t ||| s := by
  apply Nat.eq_of_testBit_eq
  intro i
  simp only [minus, Nat.testBit_or, Nat.testBit_xor, Nat.testBit_and]
  cases s.testBit i <;> cases t.testBit i <;> rfl

theorem times_eq_iterate (f : Positions → Positions) (count : Nat) (s : Positions) :
    times f count s = f^[count] s := by
  induction count generalizing s with
  | zero => rfl
  | succ count ih =>
      rw [times, Function.iterate_succ_apply]
      split
      · rename_i hfixed
        rw [hfixed, Function.iterate_fixed hfixed]
      · exact ih (f s)

def widen (f : Positions → Positions) (s : Positions) : Positions := s ||| f s

theorem Additive.widen {f : Positions → Positions} (hf : Additive f) : Additive (widen f) := by
  constructor
  · rw [Positions.widen, hf.zero, Nat.or_zero]
  · intro s t
    unfold Positions.widen
    rw [hf.or]
    ac_rfl

/-- Only what the last application reached has to be looked at again: everything seen before leads
to what has been seen. -/
theorem reachAux_eq_iterate {f : Positions → Positions} (hf : Additive f) (count : Nat)
    {old seen fresh : Positions} (hseen : old ||| fresh = seen) (hold : seen ||| f old = seen) :
    reachAux f count seen fresh = (widen f)^[count] seen := by
  induction count generalizing old seen fresh with
  | zero => rfl
  | succ count ih =>
      have hwiden : widen f seen = seen ||| minus (f fresh) seen := by
        rw [or_minus, widen]
        nth_rewrite 2 [← hseen]
        rw [hf.or, ← Nat.or_assoc, hold]
      rw [reachAux, Function.iterate_succ_apply]
      split
      · rename_i hnone
        have hfixed : widen f seen = seen := by rw [hwiden, hnone, Nat.or_zero]
        rw [hfixed, Function.iterate_fixed hfixed]
      · rw [hwiden]
        refine ih rfl ?_
        rw [← hwiden, widen, Nat.or_assoc, Nat.or_self]

theorem Additive.times {f : Positions → Positions} (hf : Additive f) (count : Nat) :
    Additive (times f count) := by
  have heq : Positions.times f count = f^[count] := funext (times_eq_iterate f count)
  rw [heq]
  exact hf.iterate count

theorem Additive.reach {f : Positions → Positions} (hf : Additive f) (count : Nat) :
    Additive (reach f count) := by
  have heq : Positions.reach f count = (Positions.widen f)^[count] := by
    funext s
    have hold : s ||| f 0 = s := by rw [hf.zero, Nat.or_zero]
    exact reachAux_eq_iterate hf count (Nat.zero_or s) hold
  rw [heq]
  exact hf.widen.iterate count

end Positions

/-! ## Where matches end -/

theorem Regex.additive_ends (length : Nat) (r : Regex Positions Positions) :
    Positions.Additive (r.ends length) := by
  induction r with
  | empty => exact ⟨rfl, fun s t => rfl⟩
  | step m =>
      constructor
      · simp [ends]
      · intro s t
        rw [ends, Nat.and_or_distrib_right, Nat.shiftLeft_or_distrib]
        rfl
  | look m =>
      constructor
      · simp [ends]
      · intro s t
        exact Nat.and_or_distrib_right s t m
  | seq a b iha ihb => exact iha.comp ihb
  | alt a b iha ihb =>
      constructor
      · rw [ends, iha.zero, ihb.zero, Nat.or_zero]
      · intro s t
        simp only [ends, iha.or, ihb.or]
        ac_rfl
  | repetition least most a ih =>
      exact (ih.times least).comp (ih.reach _)

/-! ## Sequences -/

namespace Expr

variable (text : List Char)

/-- Where the matches of an expression in a text end that begin at the given positions. -/
def run (e : Expr) (s : Positions) : Positions := (e.regex.located text).ends text.length s

def runAll (es : List Expr) (s : Positions) : Positions := es.foldl (fun s e => e.run text s) s

theorem additive_run (e : Expr) : Positions.Additive (e.run text) :=
  Regex.additive_ends text.length (e.regex.located text)

theorem runAll_append (es fs : List Expr) (s : Positions) :
    runAll text (es ++ fs) s = runAll text fs (runAll text es s) := List.foldl_append

theorem run_concat (es : List Expr) (s : Positions) :
    (Expr.concat es).run text s = runAll text es s := by
  change ((sequenceRegex es).located text).ends text.length s = _
  induction es generalizing s with
  | nil => rfl
  | cons e es ih => exact ih (e.run text s)

theorem run_literal_append (cs ds : List Char) (s : Positions) :
    (Expr.literal (cs ++ ds)).run text s =
      (Expr.literal ds).run text ((Expr.literal cs).run text s) := by
  induction cs generalizing s with
  | nil => rfl
  | cons c cs ih => exact ih _

theorem runAll_sequents (e : Expr) (s : Positions) : runAll text e.sequents s = e.run text s := by
  cases e with
  | concat es => exact (run_concat text es s).symm
  | _ => rfl

theorem runAll_flatMap_sequents (es : List Expr) (s : Positions) :
    runAll text (es.flatMap sequents) s = runAll text es s := by
  induction es generalizing s with
  | nil => rfl
  | cons e es ih =>
      rw [List.flatMap_cons, runAll_append, runAll_sequents]
      exact ih (e.run text s)

theorem runAll_joinLiterals (es : List Expr) (s : Positions) :
    runAll text (joinLiterals es) s = runAll text es s := by
  fun_induction joinLiterals es generalizing s with
  | case1 => rfl
  | case2 cs es ds rest hjoin ih =>
      change runAll text rest ((Expr.literal (cs ++ ds)).run text s) =
        runAll text es ((Expr.literal cs).run text s)
      rw [← ih, hjoin, run_literal_append]
      rfl
  | case3 cs es hjoin ih => exact ih _
  | case4 e es he ih => exact ih _

/-- A sequence is matched by one part after the other, whatever is made of the parts. -/
theorem run_sequence (es : List Expr) (s : Positions) :
    (sequence es).run text s = runAll text es s := by
  rw [← runAll_flatMap_sequents, ← runAll_joinLiterals, sequence]
  split
  · rename_i h
    rw [h]
    rfl
  · rename_i e h
    rw [h]
    rfl
  · exact run_concat text _ s

/-! ## The start of a text -/

def isMatchAtStart (e : Expr) : Bool := e.run text 1 != 0

theorem contexts_some_bits (c : Char) (cs : List Char) :
    Positions.ofBits ((Regex.contexts (some c) cs).map fun (before, after) =>
      Look.textStart.holds before after) = 0 := by
  induction cs generalizing c with
  | nil => rfl
  | cons d cs ih =>
      rw [Regex.contexts, List.map_cons, Positions.ofBits, ih]
      rfl

theorem run_look_textStart (s : Positions) : (Expr.look .textStart).run text s = s &&& 1 := by
  change s &&& Positions.ofBits ((Regex.contexts none text).map fun (before, after) =>
      Look.textStart.holds before after) = s &&& 1
  cases text with
  | nil => rfl
  | cons c cs =>
      rw [Regex.contexts, List.map_cons, Positions.ofBits, contexts_some_bits]
      rfl

theorem first_mem_all (length : Nat) : (Nat.pow 2 (length + 1) - 1) &&& 1 = 1 := by
  have hpos := Nat.two_pow_pos length
  rw [Nat.and_one_is_mod, Nat.pow_eq, Nat.pow_succ]
  omega

/-- Behind the start of the text, an expression is matched at the start of the text. -/
theorem isMatch_sequence_textStart (e : Expr) :
    (sequence [.look .textStart, e]).isMatch text = e.isMatchAtStart text := by
  change ((sequence [.look .textStart, e]).run text (Nat.pow 2 (text.length + 1) - 1) != 0) = _
  rw [run_sequence]
  change (e.run text ((Expr.look .textStart).run text _) != 0) = _
  rw [run_look_textStart, first_mem_all]
  rfl

theorem isMatch_of_isMatchAtStart {e : Expr} {text : List Char}
    (h : e.isMatchAtStart text = true) : e.isMatch text = true := by
  have hstart : e.run text ((Nat.pow 2 (text.length + 1) - 1) &&& 1) ≠ 0 := by
    rw [first_mem_all]
    exact bne_iff_ne.1 h
  exact bne_iff_ne.2 ((additive_run text e).ne_zero_of_and hstart)

end Expr

end DocQuery.Pattern
