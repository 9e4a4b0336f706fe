import BulkWrite.Fault
import BulkWrite.Retry.Policy

/-!
# Waits and budgets

The `k`-th retry after faults of one class waits `k` base intervals, so `n` of them wait
`n (n + 1) / 2` base intervals together. A `RetryBudget` counts the retries of the two classes apart
from each other and refuses one that the policy does not grant.
-/

namespace BulkWrite

namespace Backoff

/-- The wait before the `k`-th retry of a class. -/
def delay (base : Duration) (k : UInt32) : Duration :=
  base.times k.toNat

/-- The waits before the first `n` retries of a class together. A total that a 64-bit word does not
hold in nanoseconds is the greatest duration. -/
def cumulativeDelay (base : Duration) (n : UInt32) : Duration :=
  let total := base.nanos * (n.toNat * (n.toNat + 1) / 2)
  if total < UInt64.size then .ofNanos total else .greatest

end Backoff

/-- A word below another one does not overflow when it is counted up. -/
theorem toNat_add_one_of_lt {used granted : UInt32} (h : ¬granted ≤ used) :
    (used + 1).toNat = used.toNat + 1 := by
  have := granted.toNat_lt
  rw [UInt32.le_iff_toNat_le] at h
  rw [UInt32.toNat_add]
  simp only [UInt32.reduceToNat]
  omega

/-- The retries spent on one batch. -/
structure RetryBudget where
  policy : RetryPolicy
  connectionRetries : UInt32 := 0
  timeoutRetries : UInt32 := 0
deriving DecidableEq, Inhabited

namespace RetryBudget

/-- Spends a retry after a fault of the given class: the wait before it, or nothing if there is none
left or the class allows none. -/
def spend (b : RetryBudget) : Fault.Class → Option Duration × RetryBudget
  | .connection =>
    if b.policy.maxConnectionRetries ≤ b.connectionRetries then (none, b)
    else
      let k := b.connectionRetries + 1
      (some (Backoff.delay b.policy.baseInterval k), { b with connectionRetries := k })
  | .timeout =>
    if b.policy.maxTimeoutRetries ≤ b.timeoutRetries then (none, b)
    else
      let k := b.timeoutRetries + 1
      (some (Backoff.delay b.policy.baseInterval k), { b with timeoutRetries := k })
  | .fatal => (none, b)

/-- The retries of a class that are left. -/
def left (b : RetryBudget) : Nat :=
  (b.policy.maxConnectionRetries.toNat - b.connectionRetries.toNat)
    + (b.policy.maxTimeoutRetries.toNat - b.timeoutRetries.toNat)

/-- A retry that was granted is no longer left. -/
theorem left_spend_lt {b b' : RetryBudget} {c : Fault.Class} {wait : Duration}
    (h : b.spend c = (some wait, b')) : b'.left < b.left := by
  cases c with
  | connection =>
    simp only [spend] at h
    split at h
    · simp at h
    · obtain ⟨-, rfl⟩ := Prod.mk.inj h
      have hle : ¬b.policy.maxConnectionRetries ≤ b.connectionRetries := by assumption
      have := toNat_add_one_of_lt hle
      rw [UInt32.le_iff_toNat_le] at hle
      simp only [left]
      omega
  | timeout =>
    simp only [spend] at h
    split at h
    · simp at h
    · obtain ⟨-, rfl⟩ := Prod.mk.inj h
      have hle : ¬b.policy.maxTimeoutRetries ≤ b.timeoutRetries := by assumption
      have := toNat_add_one_of_lt hle
      rw [UInt32.le_iff_toNat_le] at hle
      simp only [left]
      omega
  | fatal => simp [spend] at h

end RetryBudget

end BulkWrite
