import BulkWrite.Proofs.Accounts

/-!
# What retries of one class wait for together

The waits before the first `n` retries of a class are 1, 2, … , `n` base intervals. Added one after
the other, each sum stopping at the greatest duration, they come to `n (n + 1) / 2` base intervals
or to the greatest duration (`Backoff.total_delays`). `Backoff.cumulativeDelay` takes that product
at once. It agrees with the sum as long as the product fits a 64-bit word of nanoseconds, and again
from the greatest duration on; in between, where a duration could still hold the product, it is the
greatest duration already. Main statement: where the two agree, and that the product is the same in
machine words (`Backoff.cumulativeDelay_eq_total_iff`).
-/

namespace BulkWrite

namespace Duration

/-- Durations added one after the other. -/
def total (ds : List Duration) : Duration :=
  ds.foldl add zero

lemma total_concat (ds : List Duration) (d : Duration) : total (ds ++ [d]) = (total ds).add d := by
  rw [total, List.foldl_append]
  rfl

lemma nanos_ofNanos (n : Nat) : (ofNanos n).nanos = min n maxNanos := rfl

lemma nanos_greatest : greatest.nanos = maxNanos := rfl

end Duration

namespace Backoff

/-- The waits before the first `n` retries of a class, in order. -/
def delays (base : Duration) (n : UInt32) : List Duration :=
  (List.range n.toNat).map fun i => delay base (.ofNat (i + 1))

/-! ## The sum -/

/-- A sum of the first waits stops at the greatest duration just where the product does. -/
lemma total_range (base : Duration) {m : Nat} (hm : m < UInt32.size) :
    Duration.total ((List.range m).map fun i => delay base (.ofNat (i + 1))) =
      .ofNanos (base.nanos * triangle m) := by
  induction m with
  | zero => rfl
  | succ m ih =>
    have hword : (UInt32.ofNat (m + 1)).toNat = m + 1 := UInt32.toNat_ofNat_of_lt' hm
    have hlast : delay base (.ofNat (m + 1)) = .ofNanos (base.nanos * (m + 1)) := by
      rw [delay, hword]
      rfl
    rw [List.range_succ, List.map_append, List.map_singleton, Duration.total_concat,
      ih (Nat.lt_of_succ_lt hm), hlast, Duration.add_ofNanos, ← Nat.mul_add,
      ← triangle_succ]

lemma total_delays (base : Duration) (n : UInt32) :
    Duration.total (delays base n) = .ofNanos (base.nanos * triangle n.toNat) :=
  total_range base n.toNat_lt

/-! ## The product -/

/-- The number of base intervals in 64-bit words. -/
def steps (n : UInt32) : UInt64 :=
  n.toUInt64 * (n.toUInt64 + 1) / 2

/-- The product of two numbers of 128 bits, or the greatest of these numbers. -/
def product128 (a b : Nat) : Nat :=
  min (a * b) (Nat.pow 2 128 - 1)

lemma mul_succ_lt (n : UInt32) : n.toNat * (n.toNat + 1) < UInt64.size := by
  have hn : n.toNat < 4294967296 := n.toNat_lt
  calc n.toNat * (n.toNat + 1)
      ≤ 4294967295 * 4294967296 := Nat.mul_le_mul (by omega) (by omega)
    _ < UInt64.size := by decide

/-- No word overflows on the way to the number of base intervals. -/
lemma toNat_steps (n : UInt32) : (steps n).toNat = triangle n.toNat := by
  have hn : n.toNat < 4294967296 := n.toNat_lt
  have hfits := mul_succ_lt n
  have hsucc : (n.toUInt64 + 1).toNat = n.toNat + 1 := by
    rw [UInt64.toNat_add, UInt32.toNat_toUInt64]
    exact Nat.mod_eq_of_lt (show n.toNat + 1 < 18446744073709551616 by omega)
  rw [steps, UInt64.toNat_div, UInt64.toNat_mul, hsucc, UInt32.toNat_toUInt64,
    Nat.mod_eq_of_lt hfits]
  rfl

/-- A product too large for 128 bits is too large for 64 bits, so it makes no difference where it
stops. -/
lemma cumulativeDelay_eq_product128 (base : Duration) (n : UInt32) :
    cumulativeDelay base n =
      if product128 base.nanos (steps n).toNat < UInt64.size then
        .ofNanos (product128 base.nanos (steps n).toNat)
      else .greatest := by
  rw [toNat_steps, cumulativeDelay, ← triangle]
  have hwide : UInt64.size ≤ Nat.pow 2 128 - 1 := by decide
  unfold product128
  by_cases hfits : base.nanos * triangle n.toNat < UInt64.size
  · have hmin : min (base.nanos * triangle n.toNat) (Nat.pow 2 128 - 1) =
        base.nanos * triangle n.toNat := Nat.min_eq_left (by omega)
    rw [hmin, if_pos hfits]
  · rw [if_neg hfits, if_neg (by omega)]

/-! ## Main statement -/

lemma cumulativeDelay_of_lt {base : Duration} {n : UInt32}
    (h : base.nanos * triangle n.toNat < UInt64.size) :
    cumulativeDelay base n = .ofNanos (base.nanos * triangle n.toNat) :=
  if_pos h

lemma cumulativeDelay_of_le {base : Duration} {n : UInt32}
    (h : UInt64.size ≤ base.nanos * triangle n.toNat) : cumulativeDelay base n = .greatest :=
  if_neg (Nat.not_lt.mpr h)

/-- The product agrees with the sum of the waits just where it fits a 64-bit word of nanoseconds or
is no less than the greatest duration. The sum is exact up to the greatest duration, and neither the
number of base intervals nor the product leaves the words in which they are taken. -/
theorem cumulativeDelay_eq_total_iff (base : Duration) (n : UInt32) :
    Duration.total (delays base n) = .ofNanos (base.nanos * triangle n.toNat) ∧
    (cumulativeDelay base n = Duration.total (delays base n) ↔
      base.nanos * triangle n.toNat < UInt64.size ∨
        Duration.maxNanos ≤ base.nanos * triangle n.toNat) ∧
    cumulativeDelay base n =
      (if base.nanos * triangle n.toNat < UInt64.size then Duration.total (delays base n)
        else .greatest) ∧
    n.toNat * (n.toNat + 1) < UInt64.size ∧ (steps n).toNat = triangle n.toNat ∧
    cumulativeDelay base n =
      (if product128 base.nanos (steps n).toNat < UInt64.size then
        .ofNanos (product128 base.nanos (steps n).toNat)
      else .greatest) := by
  have htotal := total_delays base n
  refine ⟨htotal, ?_, ?_, mul_succ_lt n, toNat_steps n, cumulativeDelay_eq_product128 base n⟩
  · rw [htotal]
    by_cases hfits : base.nanos * triangle n.toNat < UInt64.size
    · simp only [cumulativeDelay_of_lt hfits, hfits, true_or]
    · rw [cumulativeDelay_of_le (Nat.not_lt.mp hfits)]
      constructor
      · intro hsame
        have hnanos := congrArg Duration.nanos hsame
        rw [Duration.nanos_greatest, Duration.nanos_ofNanos] at hnanos
        omega
      · intro hlarge
        apply Duration.eq_of_nanos
        rw [Duration.nanos_greatest, Duration.nanos_ofNanos]
        omega
  · rw [htotal]
    rfl

/-- A base interval just beyond a 64-bit word of nanoseconds. -/
def longInterval : Duration := .ofNanos UInt64.size

/-- A single retry waits for less than is said of it. -/
theorem not_always_total :
    Duration.total (delays longInterval 1) = longInterval ∧
      cumulativeDelay longInterval 1 = .greatest ∧
      ¬∀ base n, cumulativeDelay base n = Duration.total (delays base n) := by
  have htotal : Duration.total (delays longInterval 1) = longInterval := by decide
  have hproduct : cumulativeDelay longInterval 1 = .greatest := by decide
  refine ⟨htotal, hproduct, fun hsame => ?_⟩
  have hsame := hsame longInterval 1
  rw [htotal, hproduct] at hsame
  exact absurd hsame (by decide)

end Backoff

end BulkWrite
