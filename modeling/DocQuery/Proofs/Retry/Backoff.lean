import DocQuery.Proofs.Duration
import DocQuery.Proofs.Retry
import DocQuery.Settings.Basic
import Mathlib.Algebra.Group.Action.Defs
import Mathlib.Algebra.Order.BigOperators.Group.List
import Mathlib.Algebra.Order.Ring.Nat

/-! # How long a policy waits

Settings give their waits in milliseconds, so that even the longest first wait can be doubled six
times without being cut off. The waits of a policy that settings describe are therefore exact, and
the settings can be had back from it.
-/

namespace DocQuery

namespace RetryPolicy

variable {p : RetryPolicy} {attempt : Nat}

theorem toNat_growth (attempt : Nat) : (growth attempt).toNat = 2 ^ min attempt 6 := by
  have hall : ∀ n : Fin 7, ((1 : UInt32) <<< UInt32.ofNat n.val).toNat = 2 ^ n.val := by decide
  exact hall ⟨min attempt 6, by omega⟩

theorem backoff_le (p : RetryPolicy) (attempt : Nat) : p.backoff attempt ≤ p.maxDelay := by
  rw [Duration.le_iff, backoff]
  split
  · exact Nat.zero_le _
  · rw [Duration.toNanos_min]
    exact Nat.min_le_right _ _

/-! ## Policies whose waits are not cut off -/

/-- The first wait can be doubled six times. -/
def Roomy (p : RetryPolicy) : Prop := p.baseDelay.toNanos * 64 < UInt64.size * nanosPerSecond

theorem Roomy.times?_growth (h : p.Roomy) (attempt : Nat) :
    ∃ d, p.baseDelay.times? (growth attempt) = some d ∧
      d.toNanos = p.baseDelay.toNanos * 2 ^ min attempt 6 := by
  have hgrowth : 2 ^ min attempt 6 ≤ 64 :=
    Nat.pow_le_pow_right (n := 2) (by decide) (Nat.min_le_right attempt 6)
  rw [← toNat_growth] at hgrowth ⊢
  exact Duration.times?_eq_some (Nat.lt_of_le_of_lt (Nat.mul_le_mul_left _ hgrowth) h)

theorem Roomy.toNanos_backoff (h : p.Roomy) (attempt : Nat) :
    (p.backoff attempt).toNanos =
      min (p.baseDelay.toNanos * 2 ^ min attempt 6) p.maxDelay.toNanos := by
  obtain ⟨d, hd, hnanos⟩ := h.times?_growth attempt
  rw [backoff]
  split
  · rename_i hzero
    rw [hzero, Duration.toNanos_zero, Nat.zero_mul, Nat.zero_min]
  · rw [Duration.toNanos_min, Duration.timesCapped, hd, Option.getD_some, hnanos]

/-- A wait is never shorter than the one before. -/
theorem Roomy.backoff_mono (h : p.Roomy) {i j : Nat} (hij : i ≤ j) :
    p.backoff i ≤ p.backoff j := by
  have hgrowth : 2 ^ min i 6 ≤ 2 ^ min j 6 := Nat.pow_le_pow_right (by decide) (by omega)
  have hmul := Nat.mul_le_mul_left p.baseDelay.toNanos hgrowth
  rw [Duration.le_iff, h.toNanos_backoff, h.toNanos_backoff]
  omega

theorem Roomy.le_backoff (h : p.Roomy) (hle : p.baseDelay ≤ p.maxDelay) (attempt : Nat) :
    p.baseDelay ≤ p.backoff attempt := by
  have hmul := Nat.le_mul_of_pos_right p.baseDelay.toNanos (Nat.two_pow_pos (min attempt 6))
  rw [Duration.le_iff] at hle ⊢
  rw [h.toNanos_backoff]
  omega

theorem Roomy.backoff_eq_zero (h : p.Roomy) (hle : p.baseDelay ≤ p.maxDelay) (attempt : Nat) :
    p.backoff attempt = .zero ↔ p.baseDelay = .zero := by
  constructor
  · intro hzero
    have hbase := h.le_backoff hle attempt
    rw [hzero, Duration.le_iff, Duration.toNanos_zero] at hbase
    exact Duration.toNanos_inj.1 (Nat.le_zero.1 hbase)
  · intro hzero
    rw [backoff, if_pos hzero]

/-! ## Runs -/

theorem exists_followed {ε α : Type} (p : RetryPolicy) (outcome : Nat → Except ε α)
    (retryable : Nat → ε → Bool) :
    ∃ tries, tries ≤ max 1 p.maxAttempts ∧
      Followed p outcome tries (p.watched outcome retryable).2 := by
  classical
  by_cases hsome : ∃ k, k < max 1 p.maxAttempts ∧ Ends outcome retryable k
  · have hfirst := Nat.find_spec hsome
    have hbefore : ∀ i < Nat.find hsome, ¬ Ends outcome retryable i := fun i hi hend =>
      Nat.find_min hsome hi ⟨hi.trans hfirst.1, hend⟩
    exact ⟨_, hfirst.1, (watched_ends hfirst.1 hfirst.2 hbefore).2⟩
  · have hnone : ∀ i < max 1 p.maxAttempts, ¬ Ends outcome retryable i := fun i hi hend =>
      hsome ⟨i, hi, hend⟩
    exact ⟨_, Nat.le_refl _, (watched_exhausted hnone).2⟩

/-- All waits of a run come to at most the limit, once between any two tries that are allowed. -/
theorem sum_waits_le {ε α : Type} (p : RetryPolicy) (outcome : Nat → Except ε α)
    (retryable : Nat → ε → Bool) :
    ((RetryEvent.waits (p.watched outcome retryable).2).map Duration.toNanos).sum ≤
      (p.maxAttempts - 1) * p.maxDelay.toNanos := by
  obtain ⟨tries, hlimit, hfollowed⟩ := p.exists_followed outcome retryable
  rw [hfollowed.waits, List.map_map]
  have hsum := List.sum_le_card_nsmul ((List.range (tries - 1)).map (Duration.toNanos ∘ p.backoff))
    p.maxDelay.toNanos fun n hn => by
      obtain ⟨attempt, -, rfl⟩ := List.mem_map.1 hn
      exact Duration.le_iff.1 (p.backoff_le attempt)
  rw [List.length_map, List.length_range, smul_eq_mul] at hsum
  exact hsum.trans (Nat.mul_le_mul_right _ (by omega))

end RetryPolicy

namespace Settings

def longestDelay (s : Settings) : UInt64 :=
  if s.retryMaxDelay ≤ s.retryBaseDelay then s.retryBaseDelay else s.retryMaxDelay

theorem base_le_longestDelay (s : Settings) : s.retryBaseDelay ≤ s.longestDelay := by
  rw [longestDelay]
  split
  · exact UInt64.le_refl _
  · exact (UInt64.le_total _ _).resolve_right ‹_›

theorem longestDelay_eq_iff (s : Settings) :
    s.longestDelay = s.retryMaxDelay ↔ s.retryBaseDelay ≤ s.retryMaxDelay := by
  constructor
  · intro h
    exact h ▸ s.base_le_longestDelay
  · intro h
    rw [longestDelay]
    split
    · exact UInt64.le_antisymm h ‹_›
    · rfl

theorem retryPolicy_eq (s : Settings) :
    s.retryPolicy =
      ⟨max s.retryAttempts.toNat 1, .ofMillis s.retryBaseDelay, .ofMillis s.longestDelay⟩ := by
  have hlimit : max (Duration.ofMillis s.retryMaxDelay) (.ofMillis s.retryBaseDelay) =
      .ofMillis s.longestDelay := by
    show (if _ ≤ _ then _ else _) = _
    simp only [Duration.ofMillis_le_ofMillis, longestDelay]
    split <;> rfl
  exact congrArg (RetryPolicy.mk _ _) hlimit

theorem roomy_retryPolicy (s : Settings) : s.retryPolicy.Roomy := by
  have hms := s.retryBaseDelay.toNat_lt_size
  rw [RetryPolicy.Roomy, retryPolicy_eq, Duration.toNanos_ofMillis]
  simp only [UInt64.size, nanosPerSecond] at hms ⊢
  omega

theorem withRetry_retryPolicy (s t : Settings) :
    t.withRetry s.retryPolicy =
      { t with
        retryAttempts := .ofNat (max s.retryAttempts.toNat 1)
        retryBaseDelay := s.retryBaseDelay
        retryMaxDelay := s.longestDelay } := by
  rw [retryPolicy_eq, withRetry]
  simp

theorem toNat_attempts (s : Settings) :
    (UInt64.ofNat (max s.retryAttempts.toNat 1)).toNat = max s.retryAttempts.toNat 1 := by
  have hlt := s.retryAttempts.toNat_lt_size
  refine UInt64.toNat_ofNat_of_lt' ?_
  simp only [UInt64.size] at hlt ⊢
  omega

theorem attempts_eq_iff (s : Settings) :
    UInt64.ofNat (max s.retryAttempts.toNat 1) = s.retryAttempts ↔ 1 ≤ s.retryAttempts := by
  rw [← UInt64.toNat_inj, toNat_attempts, UInt64.le_iff_toNat_le]
  show _ ↔ 1 ≤ _
  omega

/-- The policy comes back from any settings that take it over. -/
theorem retryPolicy_withRetry (s t : Settings) :
    (t.withRetry s.retryPolicy).retryPolicy = s.retryPolicy := by
  rw [withRetry_retryPolicy, retryPolicy_eq, retryPolicy_eq]
  have hlongest : longestDelay
      { t with
        retryAttempts := .ofNat (max s.retryAttempts.toNat 1)
        retryBaseDelay := s.retryBaseDelay
        retryMaxDelay := s.longestDelay } = s.longestDelay :=
    (longestDelay_eq_iff _).2 s.base_le_longestDelay
  rw [hlongest]
  simp only [toNat_attempts, RetryPolicy.mk.injEq, and_true]
  omega

theorem withRetry_eq_self_iff (s : Settings) :
    s.withRetry s.retryPolicy = s ↔
      1 ≤ s.retryAttempts ∧ s.retryBaseDelay ≤ s.retryMaxDelay := by
  rw [withRetry_retryPolicy, ← attempts_eq_iff, ← longestDelay_eq_iff]
  constructor
  · intro h
    exact ⟨congrArg retryAttempts h, congrArg retryMaxDelay h⟩
  · rintro ⟨hattempts, hlongest⟩
    rw [hattempts, hlongest]

/-- The waits of a policy that settings describe, whatever their milliseconds: doubled at most six
times and limited, without being cut off; never shorter than the wait before, and zero only if the
first one is. So all waits of a run come to at most the limit times the number of tries less one.
Settings keep a policy that is written into them, and are kept by their own just if they allow a try
and their waits are in order. -/
theorem backoff_is_exact (s : Settings) :
    ∃ p, p = s.retryPolicy ∧
      p.maxAttempts = max s.retryAttempts.toNat 1 ∧
      p.baseDelay.toNanos = s.retryBaseDelay.toNat * 1000000 ∧
      p.maxDelay.toNanos = max s.retryMaxDelay.toNat s.retryBaseDelay.toNat * 1000000 ∧
      1 ≤ p.maxAttempts ∧ p.baseDelay ≤ p.maxDelay ∧
      (∀ k, (∃ d, p.baseDelay.times? (RetryPolicy.growth k) = some d ∧
          d.toNanos = p.baseDelay.toNanos * 2 ^ min k 6) ∧
        (p.backoff k).toNanos = min (p.baseDelay.toNanos * 2 ^ min k 6) p.maxDelay.toNanos ∧
        (p.backoff k = .zero ↔ p.baseDelay = .zero) ∧
        (∀ k', k ≤ k' → p.backoff k ≤ p.backoff k') ∧
        (p.baseDelay ≠ .zero → p.baseDelay ≤ p.backoff k ∧ p.backoff k ≤ p.maxDelay)) ∧
      (∀ (ε α : Type) (outcome : Nat → Except ε α) (retryable : Nat → ε → Bool),
        ((RetryEvent.waits (p.watched outcome retryable).2).map Duration.toNanos).sum ≤
          (p.maxAttempts - 1) * p.maxDelay.toNanos) ∧
      (∀ t : Settings, (t.withRetry p).retryPolicy = p) ∧
      (s.withRetry p = s ↔ 1 ≤ s.retryAttempts ∧ s.retryBaseDelay ≤ s.retryMaxDelay) := by
  have hroomy := s.roomy_retryPolicy
  have hle : s.retryPolicy.baseDelay ≤ s.retryPolicy.maxDelay := by
    rw [retryPolicy_eq]
    exact Duration.ofMillis_le_ofMillis.2 s.base_le_longestDelay
  have hlongest : s.longestDelay.toNat = max s.retryMaxDelay.toNat s.retryBaseDelay.toNat := by
    rw [longestDelay]
    split <;> rename_i h <;> rw [UInt64.le_iff_toNat_le] at h <;> omega
  refine ⟨_, rfl, by rw [retryPolicy_eq], ?_, ?_, Nat.le_max_right _ _, hle, fun k => ?_,
    fun ε α => s.retryPolicy.sum_waits_le, s.retryPolicy_withRetry, s.withRetry_eq_self_iff⟩
  · rw [retryPolicy_eq, Duration.toNanos_ofMillis]
  · rw [retryPolicy_eq, Duration.toNanos_ofMillis, hlongest]
  · exact ⟨hroomy.times?_growth k, hroomy.toNanos_backoff k, hroomy.backoff_eq_zero hle k,
      fun k' => hroomy.backoff_mono, fun _ => ⟨hroomy.le_backoff hle k, RetryPolicy.backoff_le _ k⟩⟩

end Settings
end DocQuery
