import Mathlib.Data.List.Basic
import Mathlib.Data.Nat.Digits.Defs
import Mathlib.Data.Nat.Find
import Mathlib.Data.String.Basic
import BulkWrite.Proofs.Rounds

/-!
# Where an execution ends

After a passing fault a batch is submitted again as long as the policy grants another retry for the
class of the fault. So an execution ends at the first reply that is a response, a fatal fault, or a
passing fault that is preceded by as many faults of its class as retries are granted (`EndsAt`). The
budget of an attempt tells how many faults of each class came before it (`Charged`), and since each
of the replies before the last one spends a retry, there are at most

`maxConnectionRetries + maxTimeoutRetries + 1`

submissions. Main statement: there is a first such reply, the batch is submitted up to it and not
any more, and the result is what that reply says (`run_ends`).
-/

namespace BulkWrite

/-! ## One retry -/

/-- The retries that a policy grants after faults of a class. -/
def RetryPolicy.granted (p : RetryPolicy) : Fault.Class → Nat
  | .connection => p.maxConnectionRetries.toNat
  | .timeout => p.maxTimeoutRetries.toNat
  | .fatal => 0

namespace RetryBudget

/-- The retries spent after faults of a class. -/
def used (b : RetryBudget) : Fault.Class → Nat
  | .connection => b.connectionRetries.toNat
  | .timeout => b.timeoutRetries.toNat
  | .fatal => 0

variable {b b' : RetryBudget} {cls : Fault.Class} {wait : Duration}

/-- A retry is refused when all that are granted are spent. -/
lemma spend_eq_none_iff : (b.spend cls).1 = none ↔ b.policy.granted cls ≤ b.used cls := by
  cases cls with
  | connection =>
    simp only [spend, RetryPolicy.granted, used, ← UInt32.le_iff_toNat_le]
    split <;> simp_all
  | timeout =>
    simp only [spend, RetryPolicy.granted, used, ← UInt32.le_iff_toNat_le]
    split <;> simp_all
  | fatal => simp [spend, RetryPolicy.granted]

/-- A retry is charged to its class and to no other one. -/
lemma used_of_spend (h : b.spend cls = (some wait, b')) :
    b'.policy = b.policy ∧
      ∀ other, b'.used other = b.used other + if other = cls then 1 else 0 := by
  cases cls with
  | connection =>
    simp only [spend] at h
    split at h
    · simp at h
    · rename_i hleft
      obtain ⟨-, rfl⟩ := Prod.mk.inj h
      have hadd := toNat_add_one_of_lt hleft
      exact ⟨rfl, fun other => by cases other <;> simp [used, hadd]⟩
  | timeout =>
    simp only [spend] at h
    split at h
    · simp at h
    · rename_i hleft
      obtain ⟨-, rfl⟩ := Prod.mk.inj h
      have hadd := toNat_add_one_of_lt hleft
      exact ⟨rfl, fun other => by cases other <;> simp [used, hadd]⟩
  | fatal => simp [spend] at h

end RetryBudget

namespace Execution

variable {α : Type}

/-! ## One reply -/

/-- Whether a reply is a fault of the given class. -/
def isFaultOf (cls : Fault.Class) : Reply → Bool
  | .ok _ => false
  | .error fault => fault.classify == cls

/-- How many of the replies are faults of the given class. -/
def faults (cls : Fault.Class) (replies : List Reply) : Nat :=
  replies.countP (isFaultOf cls)

lemma faults_concat (cls : Fault.Class) (replies : List Reply) (fault : Fault) :
    faults cls (replies ++ [.error fault]) =
      faults cls replies + if cls = fault.classify then 1 else 0 := by
  by_cases hcls : cls = fault.classify
  · simp [faults, isFaultOf, hcls]
  · simp [faults, isFaultOf, hcls, Ne.symm hcls]

/-- The outcomes and the fault of a batch of `n` items that ends with a reply. -/
def verdict (n : Nat) : Reply → List ItemResult × Option Fault
  | .ok items =>
    if items.length = n then (items, none)
    else ([], some
      (Fault.protocol s!"expected {n} item results, received {items.length}").bounded)
  | .error fault => ([], some fault)

variable {e e' : Execution α} {reply : Reply} {wait : Duration} {result : BatchResult}

/-- A response is never followed by another attempt. -/
lemma next_of_response (e : Execution α) (items : List ItemResult) :
    ∃ result, e.next (.ok items) = .done result := by
  by_cases hcount : items.length = e.batch.items.length
  · exact ⟨_, by rw [next, Outcome.ofReply, if_pos hcount]⟩
  · exact ⟨_, by rw [next, Outcome.ofReply, if_neg hcount]; rfl⟩

/-- A fault is followed by another attempt if the budget has a retry for its class. -/
lemma next_of_fault (e : Execution α) (fault : Fault) :
    e.next (.error fault) =
      match e.budget.spend fault.classify with
      | (some wait, budget) => .retry wait (e.again budget wait)
      | (none, _) => .done (e.fail fault) := rfl

/-- Only a fault that is charged to the budget is followed by another attempt. -/
lemma exists_fault_of_retry (h : e.next reply = .retry wait e') :
    ∃ fault budget, reply = .error fault ∧
      e.budget.spend fault.classify = (some wait, budget) ∧ e' = e.again budget wait := by
  cases reply with
  | ok items =>
    obtain ⟨result, hdone⟩ := e.next_of_response items
    rw [hdone] at h
    cases h
  | error fault =>
    rw [next_of_fault] at h
    split at h
    · rename_i spent
      obtain ⟨rfl, rfl⟩ := Next.retry.inj h
      exact ⟨fault, _, rfl, spent, rfl⟩
    · cases h

/-- The result says what the last reply says. -/
lemma verdict_of_done (h : e.next reply = .done result) :
    result.sequence = e.batch.sequence ∧
      (result.items, result.error) = verdict e.batch.items.length reply := by
  cases reply with
  | ok items =>
    by_cases hcount : items.length = e.batch.items.length
    · rw [next, Outcome.ofReply, if_pos hcount] at h
      obtain rfl := Next.done.inj h
      simp [succeed, verdict, hcount]
    · rw [next, Outcome.ofReply, if_neg hcount] at h
      obtain rfl := Next.done.inj h
      simp [fail, verdict, hcount, Outcome.miscounted]
  | error fault =>
    rw [next_of_fault] at h
    split at h
    · cases h
    · obtain rfl := Next.done.inj h
      simp [fail, verdict]

/-! ## The attempts at a batch -/

/-- The attempts from one on, the replies being counted by `k`. -/
def attempts (e : Execution α) (answer : Nat → Reply) (k : Nat) : List (Execution α) :=
  match _h : e.next (answer k) with
  | .done _ => [e]
  | .retry _ e' => e :: attempts e' answer (k + 1)
termination_by e.budget.left
decreasing_by exact left_lt_of_next _h

variable {answer : Nat → Reply} {k : Nat}

/-- An attempt that brings a result is the last one. -/
lemma attempts_of_done (h : e.next (answer k) = .done result) : attempts e answer k = [e] := by
  rw [attempts]
  split
  · rfl
  · rename_i heq
    rw [h] at heq
    cases heq

/-- An attempt that leads to a retry is followed by that one. -/
lemma attempts_of_retry (h : e.next (answer k) = .retry wait e') :
    attempts e answer k = e :: attempts e' answer (k + 1) := by
  rw [attempts]
  split
  · rename_i heq
    rw [h] at heq
    cases heq
  · rename_i heq
    rw [h] at heq
    obtain ⟨rfl, rfl⟩ := Next.retry.inj heq
    rfl

/-- There is one attempt more than there are waits. -/
lemma length_attempts (e : Execution α) (answer : Nat → Reply) (k : Nat) :
    (attempts e answer k).length = (rounds e answer k).1.length + 1 := by
  induction e, k using attempts.induct answer with
  | case1 e k result hdone =>
    rw [attempts_of_done hdone, rounds_of_done hdone]
    rfl
  | case2 e k wait e' hretry ih =>
    rw [attempts_of_retry hretry, rounds_of_retry hretry, List.length_cons, List.length_cons, ih]

/-- Every attempt is one at the same batch. -/
lemma batch_of_mem_attempts (h : e' ∈ attempts e answer k) : e'.batch = e.batch := by
  induction e, k using attempts.induct answer with
  | case1 e k result hdone =>
    rw [attempts_of_done hdone, List.mem_singleton] at h
    rw [h]
  | case2 e k wait next hretry ih =>
    rw [attempts_of_retry hretry, List.mem_cons] at h
    obtain ⟨fault, budget, -, -, rfl⟩ := exists_fault_of_retry hretry
    rcases h with rfl | hmem
    · rfl
    · exact ih hmem

/-! ## The budget of an attempt -/

/-- The replies before an attempt at a batch have been charged to its budget, and are no more than
the policy grants. -/
structure Charged (policy : RetryPolicy) (batch : Batch α) (replies : List Reply)
    (e : Execution α) : Prop where
  batch_eq : e.batch = batch
  policy_eq : e.budget.policy = policy
  used_eq (cls : Fault.Class) : e.budget.used cls = faults cls replies
  used_le (cls : Fault.Class) : faults cls replies ≤ policy.granted cls
  length_eq : replies.length = faults .connection replies + faults .timeout replies

namespace Charged

variable {policy : RetryPolicy} {batch : Batch α} {replies : List Reply} {answer : Nat → Reply}
  {k : Nat}

lemma start (policy : RetryPolicy) (batch : Batch α) :
    Charged policy batch [] (Execution.start policy batch) := by
  refine ⟨rfl, rfl, ?_, ?_, rfl⟩
  · intro cls
    cases cls <;> rfl
  · intro cls
    exact Nat.zero_le _

/-- The reply before a retry is charged to the class of its fault. -/
lemma retry (h : Charged policy batch replies e) (hnext : e.next reply = .retry wait e') :
    Charged policy batch (replies ++ [reply]) e' := by
  obtain ⟨fault, budget, rfl, spent, rfl⟩ := exists_fault_of_retry hnext
  obtain ⟨hpolicy, hused⟩ := RetryBudget.used_of_spend spent
  -- the budget gave a wait, so it was not used up
  have hleft : e.budget.used fault.classify < policy.granted fault.classify := by
    by_contra hfull
    rw [← h.policy_eq, Nat.not_lt, ← RetryBudget.spend_eq_none_iff, spent] at hfull
    cases hfull
  refine ⟨h.batch_eq, hpolicy.trans h.policy_eq, ?_, ?_, ?_⟩
  · intro cls
    rw [faults_concat, ← h.used_eq]
    exact hused cls
  · intro cls
    rw [faults_concat]
    by_cases hcls : cls = fault.classify
    · rw [if_pos hcls, hcls, ← h.used_eq]
      exact hleft
    · rw [if_neg hcls]
      exact h.used_le cls
  · -- no retry is left after a fatal fault, so this one counts for one of the two classes
    rw [List.length_append, h.length_eq, faults_concat, faults_concat]
    cases hcls : fault.classify with
    | connection | timeout => simp; omega
    | fatal => simp [hcls, RetryPolicy.granted] at hleft

/-- No more replies than retries are granted precede an attempt. -/
lemma length_le (h : Charged policy batch replies e) :
    replies.length ≤ policy.maxConnectionRetries.toNat + policy.maxTimeoutRetries.toNat := by
  rw [h.length_eq]
  exact Nat.add_le_add (h.used_le .connection) (h.used_le .timeout)

/-- A fault ends the execution if as many faults of its class precede it as retries are granted. -/
lemma done_of_fault_iff (h : Charged policy batch replies e) (fault : Fault) :
    (∃ result, e.next (.error fault) = .done result) ↔
      faults fault.classify replies = policy.granted fault.classify := by
  have hspent : (e.budget.spend fault.classify).1 = none ↔
      faults fault.classify replies = policy.granted fault.classify := by
    rw [RetryBudget.spend_eq_none_iff, h.used_eq, h.policy_eq]
    exact ⟨(h.used_le fault.classify).antisymm, Eq.ge⟩
  rw [← hspent, next_of_fault]
  split <;> simp_all

end Charged

/-! ## The last reply -/

/-- The `k`-th reply, counted from 0, is one that no other attempt follows: a response, a fatal
fault, or a passing fault that is preceded by as many of its class as retries are granted. -/
def EndsAt (policy : RetryPolicy) (answer : Nat → Reply) (k : Nat) : Prop :=
  match answer k with
  | .ok _ | .error (.status _ _) | .error (.decode _) | .error (.protocol _) => True
  | .error (.connect _) =>
    faults .connection ((List.range k).map answer) = policy.maxConnectionRetries.toNat
  | .error (.timeout _) =>
    faults .timeout ((List.range k).map answer) = policy.maxTimeoutRetries.toNat

variable {policy : RetryPolicy} {batch : Batch α} {answer : Nat → Reply} {k : Nat}

/-- The reply to an attempt ends the execution if no other attempt follows it. -/
lemma Charged.endsAt_iff (h : Charged policy batch ((List.range k).map answer) e) :
    EndsAt policy answer k ↔ ∃ result, e.next (answer k) = .done result := by
  unfold EndsAt
  cases answer k with
  | ok items => simpa using e.next_of_response items
  | error fault =>
    rw [h.done_of_fault_iff]
    cases fault with
    | connect | timeout => rfl
    | status | decode | protocol =>
      simpa [Fault.classify, RetryPolicy.granted] using h.used_le .fatal

/-- Where none of the first replies ends the execution, there is an attempt after them. -/
lemma exists_after (policy : RetryPolicy) (batch : Batch α) (h : ∀ i < k, ¬EndsAt policy answer i) :
    ∃ e, (start policy batch).after ((List.range k).map answer) = some e ∧
      Charged policy batch ((List.range k).map answer) e := by
  induction k with
  | zero => exact ⟨_, rfl, .start policy batch⟩
  | succ k ih =>
    obtain ⟨e, hafter, hcharged⟩ := ih fun i hi => h i (by omega)
    have hgoes := mt hcharged.endsAt_iff.mpr (h k (by omega))
    rw [List.range_succ, List.map_append, List.map_singleton]
    cases hnext : e.next (answer k) with
    | done result => exact absurd ⟨result, hnext⟩ hgoes
    | retry wait e' => exact ⟨e', after_concat hafter hnext, hcharged.retry hnext⟩

/-- No more replies than retries are granted leave the execution going on. -/
lemma le_of_not_endsAt (h : ∀ i < k, ¬EndsAt policy answer i) :
    k ≤ policy.maxConnectionRetries.toNat + policy.maxTimeoutRetries.toNat := by
  obtain ⟨e, -, hcharged⟩ := exists_after policy (⟨0, []⟩ : Batch Unit) h
  have hlength := hcharged.length_le
  rwa [List.length_map, List.length_range] at hlength

/-- There is a first reply that ends the execution. -/
lemma exists_first_end (policy : RetryPolicy) (answer : Nat → Reply) :
    ∃ k, EndsAt policy answer k ∧ ∀ i < k, ¬EndsAt policy answer i := by
  classical
  have hexists : ∃ k, EndsAt policy answer k := by
    by_contra hnone
    rw [not_exists] at hnone
    let bound := policy.maxConnectionRetries.toNat + policy.maxTimeoutRetries.toNat
    have hle : bound + 1 ≤ bound := le_of_not_endsAt fun i _ => hnone i
    omega
  exact ⟨_, Nat.find_spec hexists, fun i hi => Nat.find_min hexists hi⟩

/-- The rounds of an execution are over with the first reply that ends it. -/
lemma rounds_of_first_end (batch : Batch α) (hends : EndsAt policy answer k)
    (hleast : ∀ i < k, ¬EndsAt policy answer i) :
    (rounds (start policy batch) answer 0).1.length = k ∧
      (rounds (start policy batch) answer 0).2.sequence = batch.sequence ∧
      ((rounds (start policy batch) answer 0).2.items,
        (rounds (start policy batch) answer 0).2.error) =
          verdict batch.items.length (answer k) := by
  obtain ⟨e, hafter, hcharged⟩ := exists_after policy batch hleast
  obtain ⟨result, hdone⟩ := hcharged.endsAt_iff.mp hends
  have hreplies : (List.range k).map answer ++ [answer k] = (List.range (k + 1)).map answer := by
    rw [List.range_succ, List.map_append, List.map_singleton]
  have hanswer (i : Nat) (reply : Reply)
      (hi : ((List.range k).map answer ++ [answer k])[i]? = some reply) :
      answer (0 + i) = reply := by
    rw [hreplies, List.getElem?_map] at hi
    obtain ⟨j, hj, rfl⟩ := Option.map_eq_some_iff.mp hi
    obtain ⟨hlt, rfl⟩ := List.getElem?_eq_some_iff.mp hj
    rw [Nat.zero_add, List.getElem_range]
  obtain ⟨hlength, hresult⟩ := rounds_of_after hafter hdone hanswer
  rw [List.length_map, List.length_range] at hlength
  obtain ⟨hsequence, hverdict⟩ := verdict_of_done hdone
  rw [hcharged.batch_eq] at hsequence hverdict
  rw [hresult]
  exact ⟨hlength, hsequence, hverdict⟩

/-- A batch with items is submitted once for each reply up to that one. -/
lemma submissions_of_first_end (hsome : batch.items ≠ []) (hends : EndsAt policy answer k)
    (hleast : ∀ i < k, ¬EndsAt policy answer i) :
    (run policy batch answer).submissions = k + 1 := by
  rw [run, if_neg (by simpa using hsome)]
  exact congrArg (· + 1) (rounds_of_first_end batch hends hleast).1

/-! ## The text of a wrong count -/

/-- A text has at most four bytes to a character. -/
lemma utf8ByteSize_le (s : String) : s.utf8ByteSize ≤ 4 * s.length := by
  rw [← String.utf8Len_toList, ← String.length_toList]
  induction s.toList with
  | nil => simp
  | cons c cs ih =>
    have hchar := c.utf8Size_le_four
    rw [String.utf8Len_cons, List.length_cons]
    omega

/-- A number that fits in a word has at most 80 bytes in decimal. -/
lemma utf8ByteSize_repr_le {n : Nat} (h : n < UInt64.size) : n.repr.utf8ByteSize ≤ 80 := by
  have hdigits : n < Nat.pow 10 20 := Nat.lt_trans h (by decide)
  have hlength := Nat.repr_length n 20 (by decide) hdigits
  have hbytes := utf8ByteSize_le n.repr
  omega

/-- The text of a count that fits in a word is short enough for a fault to keep it whole. -/
lemma bounded_miscounted {expected received : Nat} (hexpected : expected < UInt64.size)
    (hreceived : received < UInt64.size) :
    (Fault.protocol s!"expected {expected} item results, received {received}").bounded =
      .protocol s!"expected {expected} item results, received {received}" := by
  have hfirst := utf8ByteSize_repr_le hexpected
  have hsecond := utf8ByteSize_repr_le hreceived
  have hwords : "expected ".utf8ByteSize = 9 ∧ " item results, received ".utf8ByteSize = 24 := by
    decide
  have hfits :
      s!"expected {expected} item results, received {received}".utf8ByteSize ≤
        Fault.detailBound := by
    show ("expected " ++ expected.repr ++ " item results, received " ++ received.repr).utf8ByteSize
      ≤ 512
    simp only [String.utf8ByteSize_append]
    omega
  rw [Fault.bounded, Fault.detail, if_pos hfits]

/-! ## Main statement -/

/-- There is a first reply that ends the execution of a batch with items, and it comes no later than
the granted retries let it. The batch is submitted once for each reply up to that one, always the
same batch, and the result says what that reply says. -/
theorem run_ends (policy : RetryPolicy) {batch : Batch α} (hsome : batch.items ≠ [])
    (answer : Nat → Reply) :
    ∃ k, EndsAt policy answer k ∧ (∀ i < k, ¬EndsAt policy answer i) ∧
      k + 1 ≤ policy.maxConnectionRetries.toNat + policy.maxTimeoutRetries.toNat + 1 ∧
      (run policy batch answer).submissions = k + 1 ∧
      (attempts (start policy batch) answer 0).map Execution.batch = List.replicate (k + 1) batch ∧
      (run policy batch answer).result.sequence = batch.sequence ∧
      ((run policy batch answer).result.items, (run policy batch answer).result.error) =
        verdict batch.items.length (answer k) ∧
      (∀ items, answer k = .ok items → items.length ≠ batch.items.length →
        batch.items.length < UInt64.size → items.length < UInt64.size →
          (run policy batch answer).result.error = some (.protocol
            s!"expected {batch.items.length} item results, received {items.length}")) := by
  obtain ⟨k, hends, hleast⟩ := exists_first_end policy answer
  have hbound := le_of_not_endsAt hleast
  obtain ⟨hlength, hsequence, hverdict⟩ := rounds_of_first_end batch hends hleast
  have hrun : run policy batch answer =
      ⟨(rounds (start policy batch) answer 0).1.length + 1,
        (rounds (start policy batch) answer 0).1, (rounds (start policy batch) answer 0).2⟩ := by
    rw [run, if_neg (by simpa using hsome)]
  have hsubmitted : (attempts (start policy batch) answer 0).map Execution.batch =
      List.replicate (k + 1) batch := by
    rw [List.eq_replicate_iff, List.length_map, length_attempts, hlength]
    refine ⟨rfl, fun submitted hmem => ?_⟩
    obtain ⟨attempt, hattempt, rfl⟩ := List.mem_map.mp hmem
    exact batch_of_mem_attempts hattempt
  rw [hrun]
  refine ⟨k, hends, hleast, by omega, by rw [hlength], hsubmitted, hsequence, hverdict, ?_⟩
  intro items hitems hcount hexpected hreceived
  rw [hitems, verdict, if_neg hcount, bounded_miscounted hexpected hreceived] at hverdict
  exact (Prod.mk.inj hverdict).2

/-! One retry for each class, and a third fault that finds neither left. -/

def tightPolicy : RetryPolicy := ⟨.ofMillis 100, 1, 1⟩

def refusals : Nat → Reply
  | 0 => .error (.timeout "read timed out")
  | k + 1 => .error (.connect s!"refused on attempt {k + 2}")

theorem run_ends_refused :
    (⟨7, [10]⟩ : Batch Nat).items ≠ [] ∧
      (run tightPolicy ⟨7, [10]⟩ refusals).submissions = 3 ∧
      (run tightPolicy ⟨7, [10]⟩ refusals).result.error =
        some (.connect "refused on attempt 3") := by
  have hsome : (⟨7, [10]⟩ : Batch Nat).items ≠ [] := List.cons_ne_nil 10 []
  obtain ⟨k, hends, hleast, hbound, hsubmissions, -, -, hverdict, -⟩ :=
    run_ends tightPolicy hsome refusals
  -- the first two replies do not end the execution, and the third is the last that may come
  obtain rfl : k = 2 := by
    have hfirst : k ≠ 0 := by
      rintro rfl
      simp [EndsAt, refusals, faults, tightPolicy] at hends
    have hsecond : k ≠ 1 := by
      rintro rfl
      simp [EndsAt, refusals, faults, tightPolicy, isFaultOf, Fault.classify] at hends
    have hthird : k + 1 ≤ 1 + 1 + 1 := hbound
    omega
  exact ⟨hsome, hsubmissions, (Prod.mk.inj hverdict).2⟩

end Execution

end BulkWrite
