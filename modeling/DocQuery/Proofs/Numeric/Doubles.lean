import DocQuery.Json.Basic
import Mathlib.Algebra.Group.Nat.Defs

/-! # Doubles

Two doubles are equal numerically if they are the same or both zero. The double nearest to an
integer of sixty-four bits is itself a whole number, of fewer than twenty-two digits.
-/

namespace DocQuery.Numeric.Binary64

/-! ## Numerical equality -/

theorem numEq_iff {x y : Binary64} :
    x.numEq y = true ↔ x.isNaN = false ∧ y.isNaN = false ∧
      (x = y ∨ x.isZero = true ∧ y.isZero = true) := by
  simp [numEq, and_assoc]

theorem numEq_trans {x y z : Binary64} (hxy : x.numEq y = true) (hyz : y.numEq z = true) :
    x.numEq z = true := by
  rw [numEq_iff] at hxy hyz ⊢
  obtain ⟨hx, -, hxy⟩ := hxy
  obtain ⟨-, hz, hyz⟩ := hyz
  refine ⟨hx, hz, ?_⟩
  rcases hxy with rfl | ⟨hx, hy⟩
  · exact hyz
  · rcases hyz with rfl | ⟨-, hz⟩
    · exact .inr ⟨hx, hy⟩
    · exact .inr ⟨hx, hz⟩

theorem eq_of_negative_of_magnitudeBits {x y : Binary64} (hs : x.negative = y.negative)
    (hm : x.magnitudeBits = y.magnitudeBits) : x = y := by
  obtain ⟨x⟩ := x
  obtain ⟨y⟩ := y
  have hx := x.toNat_lt
  have hy := y.toNat_lt
  simp only [negative, magnitudeBits, decide_eq_decide] at hs hm
  have hbits : x.toNat = y.toNat := by omega
  rw [UInt64.toNat_inj.1 hbits]

/-- Numerical equality tells nothing apart but the signs of zeros. -/
theorem eq_of_numEq {x y : Binary64} (h : x.numEq y = true) (hs : x.negative = y.negative) :
    x = y := by
  obtain ⟨-, -, h⟩ := numEq_iff.1 h
  rcases h with h | ⟨hx, hy⟩
  · exact h
  · simp only [isZero, decide_eq_true_eq] at hx hy
    exact eq_of_negative_of_magnitudeBits hs (hx.trans hy.symm)

/-! ## Whole doubles -/

theorem magnitudeBits_ofMagnitudeBits {negative : Bool} {m : Nat} (h : m < 0x8000000000000000) :
    (ofMagnitudeBits negative m).magnitudeBits = m := by
  unfold ofMagnitudeBits magnitudeBits
  cases negative <;> simp <;> omega

theorem mantissa_exponent_of_normal {x : Binary64} {q f : Nat}
    (h : x.magnitudeBits = q * 0x10000000000000 + f) (hf : f < 0x10000000000000) (hq : 0 < q) :
    x.mantissa = 0x10000000000000 + f ∧ x.exponent = (q : Int) - 1075 := by
  have hexponent : x.exponentBits = q := by
    unfold exponentBits
    omega
  have hfraction : x.fractionBits = f := by
    unfold fractionBits
    omega
  have hpos : q ≠ 0 := by omega
  simp [mantissa, exponent, hexponent, hfraction, hpos]

theorem wholeMagnitude?_of_nonneg {x : Binary64} (h : 0 ≤ x.exponent) :
    x.wholeMagnitude? = some (x.mantissa * 2 ^ x.exponent.toNat) := by
  obtain ⟨e, he⟩ := Int.eq_ofNat_of_zero_le h
  simp [wholeMagnitude?, he]

theorem wholeMagnitude?_of_neg {x : Binary64} {e n : Nat} (he : x.exponent = -(e : Int))
    (hpos : 0 < e) (hm : x.mantissa = n * 2 ^ e) : x.wholeMagnitude? = some n := by
  obtain ⟨e, rfl⟩ := Nat.exists_eq_succ_of_ne_zero (Nat.ne_of_gt hpos)
  have hexponent : x.exponent = Int.negSucc e := by
    rw [he]
    rfl
  have hdiv : n * 2 ^ (e + 1) / 2 ^ (e + 1) = n := Nat.mul_div_cancel n (Nat.two_pow_pos _)
  simp [wholeMagnitude?, hexponent, hm, hdiv]

theorem wholeMagnitude?_of_isZero {x : Binary64} (h : x.isZero = true) :
    x.wholeMagnitude? = some 0 := by
  simp only [isZero, decide_eq_true_eq] at h
  have hmantissa : x.mantissa = 0 := by simp [mantissa, exponentBits, fractionBits, h]
  have hexponent : ∃ e : Nat, 0 < e ∧ x.exponent = -(e : Int) :=
    ⟨1074, by decide, by simp [exponent, exponentBits, h]⟩
  obtain ⟨e, hpos, he⟩ := hexponent
  exact wholeMagnitude?_of_neg he hpos (by rw [hmantissa, Nat.zero_mul])

/-! ## Rounding integers -/

theorem roundDiv_one (n : Nat) : roundDiv n 1 = n := by
  simp [roundDiv, Nat.mod_one]

theorem le_roundDiv {n d k : Nat} (hd : 0 < d) (h : k * d ≤ n) : k ≤ roundDiv n d := by
  have hdiv : k ≤ n / d := (Nat.le_div_iff_mul_le hd).2 h
  unfold roundDiv
  dsimp only
  split <;> omega

theorem roundDiv_le {n d k : Nat} (hd : 0 < d) (h : n < k * d) : roundDiv n d ≤ k := by
  have hdiv : n / d < k := (Nat.div_lt_iff_lt_mul hd).2 h
  unfold roundDiv
  dsimp only
  split <;> omega

theorem floorLog2_one {n : Nat} (hn : n ≠ 0) : floorLog2 n 1 = n.log2 := by
  have hlog : Nat.log2 1 = 0 := by decide
  have hle := Nat.log2_self_le hn
  simp [floorLog2, hlog, hle]

/-- The bits of the double nearest to an integer with few enough digits: it is the integer. -/
theorem nearestBits_of_log2_lt {n : Nat} (hn : n ≠ 0) (h : n.log2 < 52) :
    ∃ f, f < 0x10000000000000 ∧ n * 2 ^ (52 - n.log2) = 0x10000000000000 + f ∧
      nearestBits n 1 = (n.log2 + 1023) * 0x10000000000000 + f := by
  have hlow := Nat.log2_self_le hn
  have hhigh := Nat.lt_log2_self (n := n)
  have hpow : 2 ^ n.log2 * 2 ^ (52 - n.log2) = 0x10000000000000 := by
    rw [← Nat.pow_add, Nat.add_sub_cancel' (Nat.le_of_lt h)]
  have hle : 0x10000000000000 ≤ n * 2 ^ (52 - n.log2) := by
    rw [← hpow]
    exact Nat.mul_le_mul_right _ hlow
  have hlt : n * 2 ^ (52 - n.log2) < 2 * 0x10000000000000 := by
    rw [← hpow, ← Nat.mul_assoc, ← Nat.pow_succ']
    exact Nat.mul_lt_mul_of_pos_right hhigh (Nat.two_pow_pos _)
  refine ⟨n * 2 ^ (52 - n.log2) - 0x10000000000000, by omega, by omega, ?_⟩
  have he : max (floorLog2 n 1 - 52) (-1074) = -((52 - n.log2 : Nat) : Int) := by
    rw [floorLog2_one hn]
    omega
  have hneg : ¬ (0 : Int) ≤ -((52 - n.log2 : Nat) : Int) := by omega
  unfold nearestBits
  simp only [he, if_neg hneg, Int.neg_neg, Int.toNat_natCast, roundDiv_one, Nat.pow_eq]
  rw [if_neg (by omega)]
  omega

/-- The bits of the double nearest to an integer whose last digits may be lost. -/
theorem nearestBits_of_le_log2 {n : Nat} (hn : n ≠ 0) (h : 52 ≤ n.log2) :
    ∃ m, 0x10000000000000 ≤ m ∧ m ≤ 2 * 0x10000000000000 ∧
      nearestBits n 1 = (n.log2 + 1023) * 0x10000000000000 + (m - 0x10000000000000) := by
  have hlow := Nat.log2_self_le hn
  have hhigh := Nat.lt_log2_self (n := n)
  have hsplit : n.log2 = 52 + (n.log2 - 52) := by omega
  have hpow : 0x10000000000000 * 2 ^ (n.log2 - 52) = 2 ^ n.log2 := by
    have hadd : 2 ^ 52 * 2 ^ (n.log2 - 52) = 2 ^ n.log2 := by rw [← Nat.pow_add, ← hsplit]
    exact hadd
  refine ⟨roundDiv n (2 ^ (n.log2 - 52)), ?_, ?_, ?_⟩
  · exact le_roundDiv (Nat.two_pow_pos _) (hpow ▸ hlow)
  · refine roundDiv_le (Nat.two_pow_pos _) ?_
    rw [Nat.mul_assoc, hpow, ← Nat.pow_succ']
    exact hhigh
  · have he : max (floorLog2 n 1 - 52) (-1074) = ((n.log2 - 52 : Nat) : Int) := by
      rw [floorLog2_one hn]
      omega
    have hle := le_roundDiv (n := n) (Nat.two_pow_pos (n.log2 - 52)) (hpow ▸ hlow)
    unfold nearestBits
    simp only [he, Int.natCast_nonneg, if_true, Int.toNat_natCast, Nat.one_mul, Nat.pow_eq]
    rw [if_neg (by omega)]
    omega

theorem wholeMagnitude?_of_nearestBits {x : Binary64} {n : Nat} (hn : n ≠ 0)
    (hlt : n < 0x10000000000000000) (hx : x.magnitudeBits = nearestBits n 1) :
    ∃ m, x.wholeMagnitude? = some m ∧ m < 1000000000000000000000 := by
  have hlog : n.log2 < 64 := (Nat.log2_lt hn).2 hlt
  rcases Nat.lt_or_ge n.log2 52 with h | h
  · obtain ⟨f, hf, hmantissa, hbits⟩ := nearestBits_of_log2_lt hn h
    obtain ⟨hm, he⟩ := mantissa_exponent_of_normal (hx.trans hbits) hf (by omega)
    refine ⟨n, wholeMagnitude?_of_neg (e := 52 - n.log2) ?_ ?_ ?_, ?_⟩ <;> omega
  · obtain ⟨m, hlow, hhigh, hbits⟩ := nearestBits_of_le_log2 hn h
    -- A mantissa that is rounded up to the next power of two goes to the next exponent.
    have hnormal : ∃ q f, f < 0x10000000000000 ∧ 1075 ≤ q ∧ q ≤ 1087 ∧
        x.magnitudeBits = q * 0x10000000000000 + f := by
      rcases Nat.lt_or_ge m (2 * 0x10000000000000) with hm | hm
      · exact ⟨n.log2 + 1023, m - 0x10000000000000, by omega, by omega, by omega, by omega⟩
      · exact ⟨n.log2 + 1024, 0, by omega, by omega, by omega, by omega⟩
    obtain ⟨q, f, hf, hq, hq', hx⟩ := hnormal
    obtain ⟨hm, he⟩ := mantissa_exponent_of_normal hx hf (by omega)
    refine ⟨_, wholeMagnitude?_of_nonneg (by omega), ?_⟩
    have hpow : 2 ^ x.exponent.toNat ≤ 2 ^ 12 := Nat.pow_le_pow_right (by decide) (by omega)
    have hmul := Nat.mul_le_mul_left x.mantissa hpow
    omega

/-- The double nearest to an integer of sixty-four bits is whole. -/
theorem wholeMagnitude?_ofInt {n : Int} (h : n.natAbs < 0x10000000000000000) :
    ∃ m, (ofInt n).wholeMagnitude? = some m ∧ m < 1000000000000000000000 := by
  have hzero : ∀ x : Binary64, x.isZero = true →
      ∃ m, x.wholeMagnitude? = some m ∧ m < 1000000000000000000000 :=
    fun x hx => ⟨0, wholeMagnitude?_of_isZero hx, by decide⟩
  unfold ofInt ofRatio?
  split
  · exact hzero _ (by cases decide (n < 0) <;> decide)
  · rename_i hn
    dsimp only
    split
    · rename_i hbits
      have hlt : nearestBits n.natAbs 1 < 0x8000000000000000 := by
        simp only [infinityBits] at hbits
        omega
      exact wholeMagnitude?_of_nearestBits hn h (magnitudeBits_ofMagnitudeBits hlt)
    · exact hzero _ (by decide)

end DocQuery.Numeric.Binary64
