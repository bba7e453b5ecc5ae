import DocQuery.Duration

/-! # Lengths of time as numbers

A length is told by its nanoseconds: two lengths are equal or in order just if these are. Seen so,
milliseconds and multiples are exact, a multiple as long as it can be counted.
-/

namespace DocQuery

namespace Duration

variable {d e : Duration}

def toNanos (d : Duration) : Nat := d.seconds.toNat * nanosPerSecond + d.nanos.val

theorem toNanos_inj : d.toNanos = e.toNanos ↔ d = e := by
  constructor
  · intro h
    obtain ⟨s, n, hn⟩ := d
    obtain ⟨s', n', hn'⟩ := e
    simp only [toNanos, nanosPerSecond] at h hn hn'
    obtain rfl : s = s' := UInt64.toNat_inj.1 (by omega)
    obtain rfl : n = n' := by omega
    rfl
  · exact congrArg toNanos

theorem le_iff : d ≤ e ↔ d.toNanos ≤ e.toNanos := by
  obtain ⟨s, n, hn⟩ := d
  obtain ⟨s', n', hn'⟩ := e
  show s < s' ∨ s = s' ∧ n ≤ n' ↔ _
  simp only [toNanos, nanosPerSecond, UInt64.lt_iff_toNat_lt, ← UInt64.toNat_inj] at hn hn' ⊢
  omega

theorem toNanos_min (d e : Duration) : (min d e).toNanos = min d.toNanos e.toNanos := by
  show (if d ≤ e then d else e).toNanos = _
  split
  · exact (Nat.min_eq_left (le_iff.1 ‹_›)).symm
  · rename_i h
    exact (Nat.min_eq_right (Nat.le_of_not_le (mt le_iff.2 h))).symm

@[simp] theorem toNanos_zero : zero.toNanos = 0 := rfl

theorem toNanos_ofParts (seconds : UInt64) (nanos : Nat) :
    (ofParts seconds nanos).toNanos = seconds.toNat * nanosPerSecond + nanos % nanosPerSecond := rfl

/-! ## Milliseconds -/

theorem toNanos_ofMillis (ms : UInt64) : (ofMillis ms).toNanos = ms.toNat * 1000000 := by
  have hmod : ms.toNat % 1000 < 1000 := Nat.mod_lt _ (by decide)
  rw [ofMillis, toNanos_ofParts, nanosPerSecond, UInt64.toNat_div, UInt64.toNat_mod]
  show ms.toNat / 1000 * 1000000000 + ms.toNat % 1000 * 1000000 % 1000000000 = _
  omega

theorem ofMillis_le_ofMillis {ms ms' : UInt64} : ofMillis ms ≤ ofMillis ms' ↔ ms ≤ ms' := by
  rw [le_iff, toNanos_ofMillis, toNanos_ofMillis, UInt64.le_iff_toNat_le]
  omega

theorem millis_eq (d : Duration) : d.millis = d.toNanos / 1000000 := by
  show d.seconds.toNat * 1000 + d.nanos.val / 1000000 =
    (d.seconds.toNat * 1000000000 + d.nanos.val) / 1000000
  omega

@[simp] theorem millis_ofMillis (ms : UInt64) : (ofMillis ms).millis = ms.toNat := by
  rw [millis_eq, toNanos_ofMillis, Nat.mul_div_cancel _ (by decide)]

/-! ## Multiples -/

/-- Seconds and nanoseconds, each multiplied and carried over, make up the multiple. -/
theorem toNanos_mul (d : Duration) (factor : Nat) :
    (d.seconds.toNat * factor + d.nanos.val * factor / nanosPerSecond) * nanosPerSecond +
      d.nanos.val * factor % nanosPerSecond = d.toNanos * factor := by
  have hcarry := Nat.div_add_mod (d.nanos.val * factor) nanosPerSecond
  rw [toNanos, Nat.add_mul (d.seconds.toNat * nanosPerSecond), Nat.mul_right_comm _ nanosPerSecond,
    Nat.add_mul, Nat.add_assoc, Nat.mul_comm (_ / _), hcarry]

theorem times?_eq_some {factor : UInt32}
    (h : d.toNanos * factor.toNat < UInt64.size * nanosPerSecond) :
    ∃ e, d.times? factor = some e ∧ e.toNanos = d.toNanos * factor.toNat := by
  have hmul := d.toNanos_mul factor.toNat
  have hfits : d.seconds.toNat * factor.toNat + d.nanos.val * factor.toNat / nanosPerSecond <
      UInt64.size := by
    refine Nat.lt_of_mul_lt_mul_right (a := nanosPerSecond) ?_
    omega
  refine ⟨_, if_pos hfits, ?_⟩
  rw [toNanos_ofParts, UInt64.toNat_ofNat_of_lt' hfits, hmul]

end Duration
end DocQuery
