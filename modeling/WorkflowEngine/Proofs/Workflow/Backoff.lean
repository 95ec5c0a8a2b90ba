/-
This file proves how often a retry policy lets one try and how long it lets one wait. The words in
which the delay is computed are large enough: it is the base delay, doubled at most thirty-two
times and bounded by the longest delay, as if it were computed over unbounded numbers.
-/

import Mathlib.Algebra.Group.Nat.Defs
import WorkflowEngine.Workflow.RetryPolicy

namespace WorkflowEngine.RetryPolicy

/-- The policy allows as many attempts as it says, and at least one. -/
def limit (policy : RetryPolicy) : Nat :=
  max policy.maxAttempts.toNat 1

theorem attempts_toNat (policy : RetryPolicy) : policy.attempts.toNat = policy.limit := by
  unfold attempts limit
  split
  · next zero =>
    rw [zero]
    rfl
  · next nonzero =>
    have positive := UInt32.lt_iff_toNat_lt.mp (UInt32.pos_iff_ne_zero.mpr nonzero)
    exact (Nat.max_eq_left positive).symm

theorem limit_positive (policy : RetryPolicy) : 0 < policy.limit :=
  Nat.le_max_right _ 1

theorem limit_word (policy : RetryPolicy) : policy.limit < UInt32.size :=
  policy.attempts_toNat ▸ policy.attempts.toNat_lt

theorem attempts_positive (policy : RetryPolicy) : 0 < policy.attempts := by
  rw [UInt32.lt_iff_toNat_lt, attempts_toNat]
  exact policy.limit_positive

/-- This is the delay after a failed attempt, computed over unbounded numbers. -/
def delay (policy : RetryPolicy) (failed : Nat) : Nat :=
  min (policy.baseDelayMs.toNat * 2 ^ min (failed - 1) 32) policy.maxDelayMs.toNat

theorem saturatingProduct_toNat (left right : UInt64) :
    (saturatingProduct left right).toNat = min (left.toNat * right.toNat) (UInt64.size - 1) := by
  unfold saturatingProduct
  split
  · next fits =>
    rw [UInt64.toNat_mul, Nat.mod_eq_of_lt fits]
    omega
  · next exceeds =>
    have greatest : (UInt64.ofNat (UInt64.size - 1)).toNat = UInt64.size - 1 := by decide
    rw [greatest]
    omega

theorem doublings_toNat (failed : UInt32) :
    (doublings failed).toNat = min (failed.toNat - 1) 32 := by
  unfold doublings
  split
  · next none =>
    rw [none]
    rfl
  · next some =>
    have positive : 1 ≤ failed.toNat := by
      rw [← UInt32.toNat_inj] at some
      exact Nat.pos_of_ne_zero some
    have previous : (failed - 1).toNat = failed.toNat - 1 :=
      UInt32.toNat_sub_of_le failed 1 (UInt32.le_iff_toNat_le.mpr positive)
    split
    · next many =>
      rw [UInt32.lt_iff_toNat_lt] at many
      simp only [UInt32.reduceToNat] at many
      simp only [UInt64.reduceToNat]
      omega
    · next few =>
      rw [UInt32.lt_iff_toNat_lt] at few
      simp only [UInt32.reduceToNat] at few
      rw [UInt32.toNat_toUInt64, previous]
      omega

theorem power_toNat (failed : UInt32) :
    ((1 : UInt64) <<< doublings failed).toNat = 2 ^ min (failed.toNat - 1) 32 := by
  have small : min (failed.toNat - 1) 32 < 64 := by omega
  rw [UInt64.toNat_shiftLeft, doublings_toNat, Nat.mod_eq_of_lt small, UInt64.toNat_one,
    Nat.one_shiftLeft]
  exact Nat.mod_eq_of_lt (Nat.pow_lt_pow_right (by decide) small)

/-- Neither the product nor the shift loses anything of the delay. -/
theorem backoff_toNat (policy : RetryPolicy) (failed : UInt32) :
    (policy.backoff failed).toNat = policy.delay failed.toNat := by
  have product := saturatingProduct_toNat policy.baseDelayMs (1 <<< doublings failed)
  have longest := policy.maxDelayMs.toNat_lt
  rw [power_toNat] at product
  rw [backoff, delay]
  split
  · next exceeds =>
    rw [UInt64.lt_iff_toNat_lt, product] at exceeds
    omega
  · next within =>
    rw [UInt64.lt_iff_toNat_lt, product] at within
    rw [product]
    simp only [UInt64.size] at within ⊢
    omega

theorem delay_le (policy : RetryPolicy) (failed : Nat) :
    policy.delay failed ≤ policy.maxDelayMs.toNat :=
  Nat.min_le_right _ _

/-- A later delay is not shorter than an earlier one. -/
theorem delay_mono (policy : RetryPolicy) {earlier later : Nat} (before : earlier ≤ later) :
    policy.delay earlier ≤ policy.delay later := by
  have doubled : 2 ^ min (earlier - 1) 32 ≤ 2 ^ min (later - 1) 32 :=
    Nat.pow_le_pow_right (by decide) (by omega)
  have product := Nat.mul_le_mul_left policy.baseDelayMs.toNat doubled
  unfold delay
  omega

/-- A delay that would not fit in a word is as long as the longest delay. -/
example : backoff ⟨10, 18446744073709551615, 1000⟩ 33 = 1000 := by decide

end WorkflowEngine.RetryPolicy
