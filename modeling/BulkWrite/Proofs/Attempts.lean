import BulkWrite.Proofs.Accounts

/-!
# How often a batch is submitted

Every submission but the first follows a retry, and a policy grants only so many of them. So a batch
is submitted at most

`maxConnectionRetries + maxTimeoutRetries + 1`

times (`RetryPolicy.allowed`), and each number up to this one is reached when that many replies less
one are faults that the policy lets pass (`faultsFirst`). `RetryPolicy.maxAttempts` is the greatest
number of them, cut short at the greatest word, and the statistics of a result are cut short there,
too. Main statement: how often a batch is submitted and what the statistics say of it, that
`maxAttempts` bounds the statistics, and that it bounds the submissions just of the policies whose
greatest number fits in a word (`run_within`). So it does not bound them always
(`not_always_within`).
-/

namespace BulkWrite

namespace RetryPolicy

/-- The most submissions of one batch. -/
def allowed (p : RetryPolicy) : Nat :=
  p.maxConnectionRetries.toNat + p.maxTimeoutRetries.toNat + 1

/-- The published bound is the true one, as far as a word holds it. -/
lemma toNat_maxAttempts (p : RetryPolicy) :
    p.maxAttempts.toNat = min (UInt32.size - 1) p.allowed := by
  have hone : (1 : UInt32).toNat = 1 := rfl
  rw [maxAttempts, toNat_saturatingAdd, toNat_saturatingAdd, hone, allowed]
  omega

end RetryPolicy

namespace Execution

variable {α : Type} {policy : RetryPolicy} {batch : Batch α} {c n k : Nat}

/-! ## The bound -/

/-- The submissions of a batch, and what the statistics of its result say of them. -/
lemma submissions_le (policy : RetryPolicy) (batch : Batch α) (answer : Nat → Reply) :
    (run policy batch answer).submissions ≤ policy.allowed ∧
      (run policy batch answer).result.stats.attempts.toNat =
        min (UInt32.size - 1) (run policy batch answer).submissions := by
  by_cases hsome : batch.items = []
  · -- a batch without items is not submitted, and the statistics are empty
    have hrun : run policy batch answer = ⟨0, [], { sequence := batch.sequence }⟩ := by
      rw [run, if_pos (by simpa using hsome)]
    rw [hrun]
    exact ⟨Nat.zero_le _, rfl⟩
  · obtain ⟨k, last, hsubmissions, -, haccounted, hstats⟩ := run_stops policy hsome answer
    have hlength := haccounted.length_le
    rw [List.length_map, List.length_range] at hlength
    constructor
    · rw [hsubmissions]
      exact Nat.succ_le_succ hlength
    · rw [hstats, haccounted.attempts_eq, hsubmissions, List.length_map, List.length_range,
        Nat.add_comm]

/-- The statistics never go beyond the published bound. -/
lemma attempts_le_maxAttempts (policy : RetryPolicy) (batch : Batch α) (answer : Nat → Reply) :
    (run policy batch answer).result.stats.attempts ≤ policy.maxAttempts := by
  obtain ⟨hle, hattempts⟩ := submissions_le policy batch answer
  rw [UInt32.le_iff_toNat_le, hattempts, RetryPolicy.toNat_maxAttempts]
  exact min_le_min_left _ hle

/-! ## Replies that reach a number -/

/-- So many faults, the first `c` of the connection and the other ones of time, and then a
response. -/
def faultsFirst (c n : Nat) (k : Nat) : Reply :=
  if n ≤ k then .ok []
  else if k < c then .error (.connect "connection refused")
  else .error (.timeout "read timed out")

lemma faultsFirst_of_lt_of_lt (hn : k < n) (hc : k < c) :
    faultsFirst c n k = .error (.connect "connection refused") := by
  rw [faultsFirst, if_neg (by omega), if_pos hc]

lemma faultsFirst_of_lt_of_le (hn : k < n) (hc : c ≤ k) :
    faultsFirst c n k = .error (.timeout "read timed out") := by
  rw [faultsFirst, if_neg (by omega), if_neg (by omega)]

/-- As long as there are faults, the first `c` count for the connection and the other ones for
time. -/
lemma faults_faultsFirst (h : k ≤ n) :
    faults .connection ((List.range k).map (faultsFirst c n)) = min k c ∧
      faults .timeout ((List.range k).map (faultsFirst c n)) = k - c := by
  induction k with
  | zero => simp [faults]
  | succ k ih =>
    obtain ⟨hconnection, htimeout⟩ := ih (by omega)
    rw [List.range_succ, List.map_append, List.map_singleton]
    by_cases hc : k < c
    · rw [faultsFirst_of_lt_of_lt h hc, faults_concat, faults_concat, hconnection, htimeout]
      simp only [Fault.classify, if_true, reduceCtorEq, if_false]
      omega
    · rw [faultsFirst_of_lt_of_le h (by omega), faults_concat, faults_concat, hconnection,
        htimeout]
      simp only [Fault.classify, if_true, reduceCtorEq, if_false]
      omega

/-- Where the policy lets all the faults pass, the response is the first reply that ends the
execution. -/
lemma endsAt_faultsFirst (h : n < policy.allowed) :
    EndsAt policy (faultsFirst policy.maxConnectionRetries.toNat n) n ∧
      ∀ k < n, ¬EndsAt policy (faultsFirst policy.maxConnectionRetries.toNat n) k := by
  constructor
  · rw [EndsAt, faultsFirst, if_pos (Nat.le_refl n)]
    trivial
  · intro k hk
    obtain ⟨hconnection, htimeout⟩ :=
      faults_faultsFirst (c := policy.maxConnectionRetries.toNat) (Nat.le_of_lt hk)
    rw [RetryPolicy.allowed] at h
    rw [EndsAt]
    by_cases hc : k < policy.maxConnectionRetries.toNat
    · rw [faultsFirst_of_lt_of_lt hk hc]
      show faults .connection _ ≠ _
      omega
    · rw [faultsFirst_of_lt_of_le hk (by omega)]
      show faults .timeout _ ≠ _
      omega

/-- So a batch with items is submitted once more than there are faults. -/
lemma submissions_faultsFirst (hsome : batch.items ≠ []) (h : n < policy.allowed) :
    (run policy batch (faultsFirst policy.maxConnectionRetries.toNat n)).submissions = n + 1 := by
  obtain ⟨hends, hleast⟩ := endsAt_faultsFirst h
  exact submissions_of_first_end hsome hends hleast

/-- A batch with items is submitted at least once, and any number of times that the policy
allows. -/
lemma exists_submissions_iff (policy : RetryPolicy) (hsome : batch.items ≠ []) (n : Nat) :
    (∃ answer, (run policy batch answer).submissions = n) ↔ 1 ≤ n ∧ n ≤ policy.allowed := by
  constructor
  · rintro ⟨answer, rfl⟩
    obtain ⟨k, -, hsubmissions, -⟩ := run_stops policy hsome answer
    exact ⟨by omega, (submissions_le policy batch answer).1⟩
  · rintro ⟨hpos, hle⟩
    have hfaults : n - 1 < policy.allowed := by omega
    refine ⟨_, (submissions_faultsFirst hsome hfaults).trans ?_⟩
    omega

/-! ## Main statement -/

/-- **How often a batch is submitted**: at most as often as its policy allows, and the statistics
count its submissions as far as a word holds them, which is never beyond `maxAttempts`. A batch with
items is submitted as often as one likes within that, so it reaches `maxAttempts` for certain
replies, and goes beyond it for others unless a word holds the number of submissions allowed. -/
theorem run_within (policy : RetryPolicy) (batch : Batch α) :
    (∀ answer,
      (run policy batch answer).submissions ≤
        policy.maxConnectionRetries.toNat + policy.maxTimeoutRetries.toNat + 1 ∧
      (run policy batch answer).result.stats.attempts.toNat =
        min (UInt32.size - 1) (run policy batch answer).submissions ∧
      (run policy batch answer).result.stats.attempts ≤ policy.maxAttempts) ∧
    (batch.items ≠ [] →
      (∀ n, (∃ answer, (run policy batch answer).submissions = n) ↔
        1 ≤ n ∧ n ≤ policy.maxConnectionRetries.toNat + policy.maxTimeoutRetries.toNat + 1) ∧
      (∃ answer, (run policy batch answer).submissions = policy.maxAttempts.toNat ∧
        (run policy batch answer).result.stats.attempts = policy.maxAttempts) ∧
      ((∀ answer, (run policy batch answer).submissions ≤ policy.maxAttempts.toNat) ↔
        policy.maxConnectionRetries.toNat + policy.maxTimeoutRetries.toNat + 1 < UInt32.size)) := by
  have hmax := policy.toNat_maxAttempts
  have hword : UInt32.size = 4294967296 := rfl
  refine ⟨fun answer => ?_, fun hsome => ⟨exists_submissions_iff policy hsome, ?_, ?_⟩⟩
  · obtain ⟨hle, hattempts⟩ := submissions_le policy batch answer
    exact ⟨hle, hattempts, attempts_le_maxAttempts policy batch answer⟩
  · -- the published bound is one of the numbers allowed
    have hallowed : 1 ≤ policy.maxAttempts.toNat ∧ policy.maxAttempts.toNat ≤ policy.allowed := by
      rw [hmax, RetryPolicy.allowed]
      omega
    obtain ⟨answer, hanswer⟩ := (exists_submissions_iff policy hsome _).mpr hallowed
    refine ⟨answer, hanswer, UInt32.toNat_inj.mp ?_⟩
    rw [(submissions_le policy batch answer).2, hanswer, hmax]
    omega
  · constructor
    · intro hbound
      obtain ⟨answer, hanswer⟩ :=
        (exists_submissions_iff policy hsome policy.allowed).mpr ⟨Nat.succ_pos _, Nat.le_refl _⟩
      have hle := hbound answer
      rw [hanswer, hmax] at hle
      show policy.allowed < UInt32.size
      omega
    · intro hfits answer
      have hle := (submissions_le policy batch answer).1
      rw [hmax, Nat.min_eq_right]
      · exact hle
      · exact Nat.le_pred_of_lt hfits

/-! All retries that a word can count for one class, and the one submission too many. -/

def endlessPolicy : RetryPolicy := ⟨.zero, 0xFFFFFFFF, 0⟩

theorem run_within_endless :
    (⟨7, [10]⟩ : Batch Nat).items ≠ [] ∧ endlessPolicy.maxAttempts = 0xFFFFFFFF ∧
      ∃ answer, (run endlessPolicy (⟨7, [10]⟩ : Batch Nat) answer).submissions = 4294967296 ∧
        (run endlessPolicy (⟨7, [10]⟩ : Batch Nat) answer).result.stats.attempts.toNat =
          4294967295 := by
  have hsome : (⟨7, [10]⟩ : Batch Nat).items ≠ [] := List.cons_ne_nil 10 []
  obtain ⟨hall, hreached⟩ := run_within endlessPolicy (⟨7, [10]⟩ : Batch Nat)
  obtain ⟨answer, hanswer⟩ := ((hreached hsome).1 4294967296).mpr (by decide)
  refine ⟨hsome, by decide, answer, hanswer, ?_⟩
  rw [(hall answer).2.1, hanswer]
  decide

/-- A batch may be submitted more often than the published bound says. -/
theorem not_always_within :
    ¬∀ (policy : RetryPolicy) (batch : Batch Nat) (answer : Nat → Reply),
      (run policy batch answer).submissions ≤ policy.maxAttempts.toNat := by
  intro h
  have hsome : (⟨7, [10]⟩ : Batch Nat).items ≠ [] := List.cons_ne_nil 10 []
  have hmost : (run endlessPolicy ⟨7, [10]⟩ (faultsFirst 0xFFFFFFFF 0xFFFFFFFF)).submissions =
      0xFFFFFFFF + 1 :=
    submissions_faultsFirst hsome (by decide)
  have hbound := h endlessPolicy ⟨7, [10]⟩ (faultsFirst 0xFFFFFFFF 0xFFFFFFFF)
  rw [hmost] at hbound
  exact absurd hbound (by decide)

end Execution

end BulkWrite
