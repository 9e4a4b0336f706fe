import Mathlib.Algebra.BigOperators.Ring.List
import Mathlib.Tactic.Ring
import BulkWrite.Proofs.Retries

/-!
# What an execution accounts for

The `j`-th retry of a class waits `j` base intervals, so after `c` faults of the connection and `t`
faults of time the waits are, in whatever order the faults came,

`baseInterval * (c (c + 1) / 2 + t (t + 1) / 2)`

together. The statistics of an attempt account for just the replies before it (`Accounted`), also
where their words or the duration are at their greatest. Main statement: the statistics of a result,
and, where no wait is cut short, the times of its submissions (`run_accounts`).
-/

namespace BulkWrite

/-! ## Saturation -/

/-- The sum of the numbers up to `n`. -/
def triangle (n : Nat) : Nat := n * (n + 1) / 2

lemma triangle_succ (n : Nat) : triangle (n + 1) = triangle n + (n + 1) := by
  have hsplit : (n + 1) * (n + 1 + 1) = n * (n + 1) + (n + 1) * 2 := by ring
  rw [triangle, hsplit, Nat.add_mul_div_right _ _ (by decide)]
  rfl

namespace Duration

lemma eq_of_nanos {a b : Duration} (h : a.nanos = b.nanos) : a = b := by
  cases a
  cases b
  cases h
  rfl

/-- Sums that stop at the greatest duration stop together. -/
lemma add_ofNanos (m n : Nat) : (ofNanos m).add (ofNanos n) = ofNanos (m + n) := by
  apply eq_of_nanos
  show min (min m maxNanos + min n maxNanos) maxNanos = min (m + n) maxNanos
  omega

/-- A multiple of whole milliseconds that fits in a duration is over after as many milliseconds. -/
lemma millisCeil_times {d : Duration} {b n : Nat} (hmillis : d.nanos = b * nanosPerMilli)
    (hfits : d.nanos * n ≤ maxNanos) : (d.times n).millisCeil = n * b := by
  have hnanos : (d.times n).nanos = n * b * 1000000 := by
    show min (d.nanos * n) maxNanos = _
    rw [Nat.min_eq_left hfits, hmillis, Nat.mul_comm, Nat.mul_assoc]
    rfl
  rw [millisCeil, hnanos]
  show (n * b * 1000000 + 999999) / 1000000 = n * b
  omega

end Duration

lemma RetryPolicy.toNat_saturatingAdd (a b : UInt32) :
    (saturatingAdd a b).toNat = min (UInt32.size - 1) (a.toNat + b.toNat) := by
  rw [saturatingAdd, UInt32.toNat_ofNat', Nat.min_comm]
  exact Nat.mod_eq_of_lt (Nat.lt_of_le_of_lt (Nat.min_le_left _ _) (by decide))

/-- The wait before a retry is as many base intervals as retries of its class are spent then. -/
lemma RetryBudget.wait_of_spend {b b' : RetryBudget} {cls : Fault.Class} {wait : Duration}
    (h : b.spend cls = (some wait, b')) : wait = b.policy.baseInterval.times (b'.used cls) := by
  cases cls with
  | connection =>
    simp only [spend] at h
    split at h
    · simp at h
    · obtain ⟨hwait, rfl⟩ := Prod.mk.inj h
      exact (Option.some.inj hwait).symm
  | timeout =>
    simp only [spend] at h
    split at h
    · simp at h
    · obtain ⟨hwait, rfl⟩ := Prod.mk.inj h
      exact (Option.some.inj hwait).symm
  | fatal => simp [spend] at h

namespace Execution

variable {α : Type} {policy : RetryPolicy} {batch : Batch α} {e e' : Execution α} {reply : Reply}
  {replies more : List Reply} {wait : Duration} {result : BatchResult} {answer : Nat → Reply}
  {k : Nat}

/-! ## Base intervals -/

/-- How many base intervals the waits after replies are together. -/
def intervals (replies : List Reply) : Nat :=
  triangle (faults .connection replies) + triangle (faults .timeout replies)

/-- The number of a fault among those of its class. -/
def ordinal (answer : Nat → Reply) (i : Nat) : Nat :=
  match answer i with
  | .ok _ => 0
  | .error fault => faults fault.classify ((List.range (i + 1)).map answer)

lemma ordinal_of_fault {fault : Fault} {i : Nat} (h : answer i = .error fault) :
    ordinal answer i = faults fault.classify ((List.range (i + 1)).map answer) := by
  rw [ordinal, h]

/-- A passing fault adds as many base intervals as there have been faults of its class. -/
lemma intervals_concat (replies : List Reply) {fault : Fault} (h : fault.classify ≠ .fatal) :
    intervals (replies ++ [.error fault]) =
      intervals replies + faults fault.classify (replies ++ [.error fault]) := by
  simp only [intervals, faults_concat]
  cases hcls : fault.classify with
  | connection => simp [triangle_succ]; omega
  | timeout => simp [triangle_succ]; omega
  | fatal => exact absurd hcls h

/-- A reply is a fault of the connection or of time. -/
def IsPassing : Reply → Prop
  | .error (.connect _) | .error (.timeout _) => True
  | _ => False

lemma isPassing_iff : IsPassing reply ↔ ∃ fault, reply = .error fault ∧ fault.classify ≠ .fatal := by
  cases reply with
  | ok items => simp [IsPassing]
  | error fault => cases fault <;> simp [IsPassing, Fault.classify]

/-- The waits after passing faults come to the same, in whatever order the faults came. -/
lemma sum_ordinal (h : ∀ i < k, IsPassing (answer i)) :
    ((List.range k).map (ordinal answer)).sum = intervals ((List.range k).map answer) := by
  induction k with
  | zero => simp [intervals, triangle, faults]
  | succ k ih =>
    obtain ⟨fault, hfault, hfatal⟩ := isPassing_iff.mp (h k (Nat.lt_succ_self k))
    have hold := ih fun i hi => h i (by omega)
    have hreplies : (List.range (k + 1)).map answer =
        (List.range k).map answer ++ [.error fault] := by
      rw [List.range_succ, List.map_append, List.map_singleton, hfault]
    rw [hreplies, intervals_concat _ hfatal, ← hreplies, ← ordinal_of_fault hfault, ← hold,
      List.range_succ, List.map_append, List.map_singleton, List.sum_append, List.sum_singleton]

/-! ## The statistics of an attempt -/

/-- The replies before an attempt have been charged to its budget and are in its statistics. -/
structure Accounted (policy : RetryPolicy) (batch : Batch α) (replies : List Reply)
    (e : Execution α) : Prop extends Charged policy batch replies e where
  isPassing : ∀ reply ∈ replies, IsPassing reply
  attempts_eq : e.stats.attempts.toNat = min (UInt32.size - 1) (1 + replies.length)
  connection_eq : e.stats.connectionRetries = e.budget.connectionRetries
  timeout_eq : e.stats.timeoutRetries = e.budget.timeoutRetries
  waited_eq : e.stats.waited = .ofNanos (policy.baseInterval.nanos * intervals replies)

namespace Accounted

lemma start (policy : RetryPolicy) (batch : Batch α) :
    Accounted policy batch [] (Execution.start policy batch) :=
  ⟨Charged.start policy batch, by simp, rfl, rfl, rfl, by simp [intervals, triangle, faults]; rfl⟩

/-- The wait of a retry goes into the statistics of the next attempt, and the reply before it. -/
lemma retry (h : Accounted policy batch replies e) (hnext : e.next reply = .retry wait e') :
    Accounted policy batch (replies ++ [reply]) e' := by
  have hcharged := h.toCharged.retry hnext
  obtain ⟨fault, budget, rfl, spent, rfl⟩ := exists_fault_of_retry hnext
  have hfatal : fault.classify ≠ .fatal := by
    intro hcls
    rw [hcls] at spent
    cases spent
  -- the budget had counted this fault when it gave the wait
  have hwait : wait = .ofNanos
      (policy.baseInterval.nanos * faults fault.classify (replies ++ [.error fault])) := by
    rw [RetryBudget.wait_of_spend spent, h.policy_eq, ← hcharged.used_eq]
    rfl
  refine ⟨hcharged, ?_, ?_, rfl, rfl, ?_⟩
  · intro other hother
    rcases List.mem_append.mp hother with hother | hother
    · exact h.isPassing other hother
    · exact isPassing_iff.mpr ⟨fault, List.mem_singleton.mp hother, hfatal⟩
  · -- a word at its greatest stays there
    show (RetryPolicy.saturatingAdd e.stats.attempts 1).toNat = _
    rw [RetryPolicy.toNat_saturatingAdd, h.attempts_eq, List.length_append]
    show min _ (_ + 1) = min _ (1 + (replies.length + 1))
    omega
  · show e.stats.waited.add wait = _
    rw [h.waited_eq, hwait, Duration.add_ofNanos, intervals_concat _ hfatal, Nat.mul_add]

/-- What follows after more replies accounts for them, too. -/
lemma after (h : Accounted policy batch replies e) (hafter : e.after more = some e') :
    Accounted policy batch (replies ++ more) e' := by
  induction more generalizing replies e with
  | nil =>
    obtain rfl : e = e' := Option.some.inj hafter
    rwa [List.append_nil]
  | cons reply more ih =>
    rw [Execution.after] at hafter
    cases hnext : e.next reply with
    | done result =>
      rw [hnext] at hafter
      cases hafter
    | retry wait next =>
      rw [hnext] at hafter
      have hmore := ih (h.retry hnext) hafter
      rwa [List.append_assoc] at hmore

end Accounted

/-- A result has the statistics of the last attempt. -/
lemma stats_of_done (h : e.next reply = .done result) : result.stats = e.stats := by
  unfold next at h
  split at h
  · obtain rfl := Next.done.inj h
    rfl
  · split at h
    · cases h
    · obtain rfl := Next.done.inj h
      rfl

/-! ## The rounds of a run -/

/-- The rounds from an attempt on lead through as many retries as there are waits, and then to the
result. -/
lemma exists_last (e : Execution α) (answer : Nat → Reply) (k : Nat) :
    ∃ last, e.after ((List.range' k (rounds e answer k).1.length).map answer) = some last ∧
      last.next (answer (k + (rounds e answer k).1.length)) = .done (rounds e answer k).2 := by
  induction e, k using attempts.induct answer with
  | case1 e k result hdone =>
    rw [rounds_of_done hdone]
    exact ⟨e, rfl, hdone⟩
  | case2 e k wait e' hretry ih =>
    obtain ⟨last, hafter, hdone⟩ := ih
    rw [rounds_of_retry hretry]
    refine ⟨last, ?_, ?_⟩
    · rw [List.length_cons, List.range'_succ, List.map_cons, after, hretry]
      exact hafter
    · rw [List.length_cons, Nat.add_comm _ 1, ← Nat.add_assoc]
      exact hdone

/-- Each wait is as many base intervals as there have been faults of the class before it. -/
lemma Charged.waits_eq (h : Charged policy batch ((List.range k).map answer) e) :
    (rounds e answer k).1 = (List.range' k (rounds e answer k).1.length).map
      fun i => policy.baseInterval.times (ordinal answer i) := by
  induction e, k using attempts.induct answer with
  | case1 e k result hdone =>
    rw [rounds_of_done hdone]
    rfl
  | case2 e k wait e' hretry ih =>
    have hcharged : Charged policy batch ((List.range (k + 1)).map answer) e' := by
      rw [List.range_succ, List.map_append, List.map_singleton]
      exact h.retry hretry
    obtain ⟨fault, budget, hfault, spent, rfl⟩ := exists_fault_of_retry hretry
    have hwait : wait = policy.baseInterval.times (ordinal answer k) := by
      rw [RetryBudget.wait_of_spend spent, h.policy_eq, ordinal_of_fault hfault,
        ← hcharged.used_eq]
      rfl
    rw [rounds_of_retry hretry, List.length_cons, List.range'_succ, List.map_cons, ← hwait]
    exact congrArg (wait :: ·) (ih hcharged)

/-- What a run of a batch with items accounts for, and what it waits for. -/
lemma run_stops (policy : RetryPolicy) {batch : Batch α} (hsome : batch.items ≠ [])
    (answer : Nat → Reply) :
    ∃ k last, (run policy batch answer).submissions = k + 1 ∧
      (run policy batch answer).waits =
        (List.range k).map (fun i => policy.baseInterval.times (ordinal answer i)) ∧
      Accounted policy batch ((List.range k).map answer) last ∧
      (run policy batch answer).result.stats = last.stats := by
  have hrun : run policy batch answer =
      ⟨(rounds (Execution.start policy batch) answer 0).1.length + 1,
        (rounds (Execution.start policy batch) answer 0).1,
        (rounds (Execution.start policy batch) answer 0).2⟩ := by
    rw [run, if_neg (by simpa using hsome)]
  obtain ⟨last, hafter, hdone⟩ := exists_last (Execution.start policy batch) answer 0
  rw [← List.range_eq_range'] at hafter
  have hcharged : Charged policy batch ((List.range 0).map answer)
      (Execution.start policy batch) := Charged.start policy batch
  have hwaits := hcharged.waits_eq
  rw [← List.range_eq_range'] at hwaits
  rw [hrun]
  exact ⟨_, last, rfl, hwaits, (Accounted.start policy batch).after hafter, stats_of_done hdone⟩

/-! ## The clock -/

/-- The first submission starts at once, and every other one when the wait is over that follows the
reply to the one before it. -/
lemma schedule_starts (latency : Nat → Nat) (k now : Nat) (waits : List Duration) :
    (schedule latency k now waits).1.length = waits.length + 1 ∧
      (schedule latency k now waits).1[0]? = some now ∧
      ∀ i wait, waits[i]? = some wait → ∃ start,
        (schedule latency k now waits).1[i]? = some start ∧
          (schedule latency k now waits).1[i + 1]? =
            some (start + latency (k + i) + wait.millisCeil) := by
  induction waits generalizing k now with
  | nil => simp [schedule]
  | cons first waits ih =>
    obtain ⟨hlength, hfirst, hnext⟩ := ih (k + 1) (now + latency k + first.millisCeil)
    refine ⟨congrArg (· + 1) hlength, rfl, fun i wait hwait => ?_⟩
    cases i with
    | zero =>
      obtain rfl : first = wait := Option.some.inj hwait
      exact ⟨now, rfl, hfirst⟩
    | succ i =>
      obtain ⟨start, hstart, hafter⟩ := hnext i wait hwait
      have hindex : k + 1 + i = k + (i + 1) := by omega
      rw [hindex] at hafter
      exact ⟨start, hstart, hafter⟩

/-- The last reply comes when all latencies and all waits are over. -/
lemma schedule_finish (latency : Nat → Nat) (k now : Nat) (waits : List Duration) :
    (schedule latency k now waits).2 =
      now + ((List.range' k (waits.length + 1)).map latency).sum +
        (waits.map Duration.millisCeil).sum := by
  induction waits generalizing k now with
  | nil => simp [schedule]
  | cons first waits ih =>
    have hrest := ih (k + 1) (now + latency k + first.millisCeil)
    rw [List.length_cons, List.range'_succ, List.map_cons, List.map_cons, List.sum_cons,
      List.sum_cons]
    show (schedule latency (k + 1) (now + latency k + first.millisCeil) waits).2 = _
    omega

/-- On a clock of whole milliseconds every wait that fits in a duration is exact. -/
lemma millisCeil_ordinal {b : Nat} (hmillis : policy.baseInterval.nanos = b * Duration.nanosPerMilli)
    (hfits : ∀ i < k, policy.baseInterval.nanos * ordinal answer i ≤ Duration.maxNanos) :
    ((List.range k).map fun i => policy.baseInterval.times (ordinal answer i)).map
        Duration.millisCeil =
      (List.range k).map fun i => ordinal answer i * b := by
  rw [List.map_map]
  apply List.map_congr_left
  intro i hi
  rw [Function.comp_apply]
  exact Duration.millisCeil_times hmillis (hfits i (List.mem_range.mp hi))

/-! ## Main statement -/

/-- An execution stops after `k` replies, `c` faults of the connection and `t` faults of time, and one
more. The statistics say so, and that the waits before the `k` retries were
`c (c + 1) / 2 + t (t + 1) / 2` base intervals together. With a base interval of whole milliseconds
and no wait cut short, a retry starts as many base intervals after the reply before it as there have
been faults of its class, and all is over after the latencies and the waits. -/
theorem run_accounts (policy : RetryPolicy) {batch : Batch α} (hsome : batch.items ≠ [])
    (answer : Nat → Reply) :
    ∃ k c t, (run policy batch answer).submissions = k + 1 ∧
      c = faults .connection ((List.range k).map answer) ∧
      t = faults .timeout ((List.range k).map answer) ∧
      (∀ i < k, IsPassing (answer i)) ∧
      (run policy batch answer).result.stats.connectionRetries.toNat = c ∧
      c ≤ policy.maxConnectionRetries.toNat ∧
      (run policy batch answer).result.stats.timeoutRetries.toNat = t ∧
      t ≤ policy.maxTimeoutRetries.toNat ∧
      (run policy batch answer).result.stats.attempts.toNat =
        min (UInt32.size - 1) (1 + c + t) ∧
      (run policy batch answer).result.stats.waited =
        .ofNanos (policy.baseInterval.nanos * (triangle c + triangle t)) ∧
      ∀ (latency : Nat → Nat) (b : Nat),
        policy.baseInterval.nanos = b * Duration.nanosPerMilli →
        (∀ i < k, policy.baseInterval.nanos * ordinal answer i ≤ Duration.maxNanos) →
        ∃ starts finish, (run policy batch answer).times latency = (starts, finish) ∧
          starts.length = k + 1 ∧ starts[0]? = some 0 ∧
          (∀ i < k, ∃ start, starts[i]? = some start ∧
            starts[i + 1]? = some (start + latency i + ordinal answer i * b)) ∧
          finish = ((List.range (k + 1)).map latency).sum + (triangle c + triangle t) * b ∧
          (policy.baseInterval.nanos * (triangle c + triangle t) ≤ Duration.maxNanos →
            finish * Duration.nanosPerMilli =
              ((List.range (k + 1)).map latency).sum * Duration.nanosPerMilli +
                (run policy batch answer).result.stats.waited.nanos) := by
  obtain ⟨k, last, hsubmissions, hwaits, haccounted, hstats⟩ := run_stops policy hsome answer
  have hpassing : ∀ i < k, IsPassing (answer i) := fun i hi =>
    haccounted.isPassing _ (List.mem_map_of_mem (List.mem_range.mpr hi))
  have hlength := haccounted.length_eq
  rw [List.length_map, List.length_range] at hlength
  have hwaited : (run policy batch answer).result.stats.waited =
      .ofNanos (policy.baseInterval.nanos * intervals ((List.range k).map answer)) := by
    rw [hstats, haccounted.waited_eq]
  refine ⟨k, _, _, hsubmissions, rfl, rfl, hpassing, ?_, haccounted.used_le .connection, ?_,
    haccounted.used_le .timeout, ?_, hwaited, ?_⟩
  · rw [hstats, haccounted.connection_eq]
    exact haccounted.used_eq .connection
  · rw [hstats, haccounted.timeout_eq]
    exact haccounted.used_eq .timeout
  · rw [hstats, haccounted.attempts_eq, List.length_map, List.length_range, Nat.add_assoc,
      ← hlength]
  · intro latency b hmillis hfits
    have htimes : (run policy batch answer).times latency =
        schedule latency 0 0 (run policy batch answer).waits := by
      rw [Run.times, if_neg (by omega)]
    have hcount : (run policy batch answer).waits.length = k := by
      rw [hwaits, List.length_map, List.length_range]
    obtain ⟨hstarts, hfirst, hnext⟩ := schedule_starts latency 0 0 (run policy batch answer).waits
    -- the waits of the schedule add up to the base intervals after all faults
    have hfinish : (schedule latency 0 0 (run policy batch answer).waits).2 =
        ((List.range (k + 1)).map latency).sum + intervals ((List.range k).map answer) * b := by
      rw [schedule_finish, hcount, ← List.range_eq_range', Nat.zero_add, hwaits,
        millisCeil_ordinal hmillis hfits, List.sum_map_mul_right, sum_ordinal hpassing]
    refine ⟨_, _, htimes, by rw [hstarts, hcount], hfirst, fun i hi => ?_, hfinish, fun htotal => ?_⟩
    · have hwait : (run policy batch answer).waits[i]? =
          some (policy.baseInterval.times (ordinal answer i)) := by
        rw [hwaits, List.getElem?_map, List.getElem?_range hi]
        rfl
      have hafter := hnext i _ hwait
      rwa [Nat.zero_add, Duration.millisCeil_times hmillis (hfits i hi)] at hafter
    · have hnanos : (run policy batch answer).result.stats.waited.nanos =
          policy.baseInterval.nanos * intervals ((List.range k).map answer) := by
        rw [hwaited]
        exact Nat.min_eq_left htotal
      rw [hfinish, hnanos, hmillis]
      ring

/-! Two faults of the connection with one of time between them, and then a final one. -/

def stumblePolicy : RetryPolicy := ⟨.ofMillis 10, 2, 1⟩

def stumbles : Nat → Reply
  | 0 | 2 => .error (.connect "connection refused")
  | 1 => .error (.timeout "read timed out")
  | _ => .error (.status 503 "unavailable")

lemma submissions_stumbles : (run stumblePolicy ⟨7, [10]⟩ stumbles).submissions = 4 := by
  have hends : EndsAt stumblePolicy stumbles 3 := trivial
  have hleast : ∀ i < 3, ¬EndsAt stumblePolicy stumbles i
    | 0, _ => (by decide : 0 ≠ 2)
    | 1, _ => (by decide : 0 ≠ 1)
    | 2, _ => (by decide : 1 ≠ 2)
  exact submissions_of_first_end (List.cons_ne_nil 10 []) hends hleast

theorem run_accounts_stumbles :
    (⟨7, [10]⟩ : Batch Nat).items ≠ [] ∧
      (run stumblePolicy ⟨7, [10]⟩ stumbles).result.stats.attempts.toNat = 4 ∧
      (run stumblePolicy ⟨7, [10]⟩ stumbles).result.stats.waited = .ofMillis 40 ∧
      ∃ starts, (run stumblePolicy ⟨7, [10]⟩ stumbles).times (fun _ => 5) = (starts, 60) ∧
        starts[1]? = some 15 ∧ starts[2]? = some 30 ∧ starts[3]? = some 55 := by
  have hsome : (⟨7, [10]⟩ : Batch Nat).items ≠ [] := List.cons_ne_nil 10 []
  obtain ⟨k, c, t, hsubmissions, rfl, rfl, -, -, -, -, -, hattempts, hwaited, htimes⟩ :=
    run_accounts stumblePolicy hsome stumbles
  obtain rfl : k = 3 := by
    have hfour := submissions_stumbles
    omega
  obtain ⟨starts, finish, hrun, -, hfirst, hnext, hfinish, -⟩ :=
    htimes (fun _ => 5) 10 rfl (by decide)
  obtain rfl : finish = 60 := hfinish
  refine ⟨hsome, hattempts, hwaited, starts, hrun, ?_⟩
  obtain ⟨start, hstart, hsecond⟩ := hnext 0 (by decide)
  obtain rfl : 0 = start := Option.some.inj (hfirst.symm.trans hstart)
  obtain ⟨start, hstart, hthird⟩ := hnext 1 (by decide)
  obtain rfl : 15 = start := Option.some.inj (hsecond.symm.trans hstart)
  obtain ⟨start, hstart, hfourth⟩ := hnext 2 (by decide)
  obtain rfl : 30 = start := Option.some.inj (hthird.symm.trans hstart)
  exact ⟨hsecond, hthird, hfourth⟩

end Execution

end BulkWrite
