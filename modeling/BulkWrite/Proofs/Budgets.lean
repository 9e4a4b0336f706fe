import BulkWrite.Proofs.Accounts

/-!
# Budgets do not interfere

Faults of the two passing classes may come in any order, and fatal ones between them. A step looks
at nothing but the policy and what is spent for its own class, and changes nothing but the latter
(`spend_cases`). So whatever else is spent in between, the faults of one class are answered as if
they had come alone (`answersTo_eq`), and after any number of steps a class has spent a retry for
each of its faults or all that are granted (`used_after`). Main statement: the `i`-th fault of a
class waits `i` base intervals as long as so many retries are granted to the class, and no counter
leaves its word (`classes_do_not_interfere`).
-/

namespace BulkWrite.RetryBudget

variable {b b' : RetryBudget} {cls other : Fault.Class} {classes : List Fault.Class} {k : Nat}

/-! ## One step -/

lemma eq_of_spend_none (h : b.spend cls = (none, b')) : b' = b := by
  cases cls with
  | connection | timeout =>
    simp only [spend] at h
    split at h
    · exact (Prod.mk.inj h).2.symm
    · cases h
  | fatal => exact (Prod.mk.inj h).2.symm

/-- A retry is either charged to its class alone or refused, and then nothing changes. -/
lemma spend_cases (b : RetryBudget) (cls : Fault.Class) :
    (b.used cls < b.policy.granted cls ∧
      ∃ b', b.spend cls = (some (b.policy.baseInterval.times (b.used cls + 1)), b') ∧
        b'.policy = b.policy ∧ b'.used cls = b.used cls + 1 ∧
        ∀ other, other ≠ cls → b'.used other = b.used other) ∨
    (b.policy.granted cls ≤ b.used cls ∧ b.spend cls = (none, b)) := by
  rcases hspend : b.spend cls with ⟨- | wait, b'⟩
  · refine .inr ⟨spend_eq_none_iff.mp (by rw [hspend]), ?_⟩
    rw [eq_of_spend_none hspend]
  · have hleft : ¬b.policy.granted cls ≤ b.used cls := by
      rw [← spend_eq_none_iff, hspend]
      nofun
    obtain ⟨hpolicy, hused⟩ := used_of_spend hspend
    have hself : b'.used cls = b.used cls + 1 := by rw [hused, if_pos rfl]
    refine .inl ⟨Nat.lt_of_not_le hleft, b', ?_, hpolicy, hself, fun other hother => ?_⟩
    · rw [wait_of_spend hspend, hself]
    · rw [hused, if_neg hother, Nat.add_zero]

/-- The answer tells nothing but the policy and what is spent for the class. -/
lemma spend_fst (b : RetryBudget) (cls : Fault.Class) : (b.spend cls).1 =
    if b.used cls < b.policy.granted cls then
      some (b.policy.baseInterval.times (b.used cls + 1)) else none := by
  obtain ⟨hleft, b', hspend, -⟩ | ⟨hspent, hspend⟩ := b.spend_cases cls
  · rw [hspend, if_pos hleft]
  · rw [hspend, if_neg (Nat.not_lt.mpr hspent)]

@[simp] lemma policy_spend (b : RetryBudget) (cls : Fault.Class) :
    (b.spend cls).2.policy = b.policy := by
  obtain ⟨-, b', hspend, hpolicy, -⟩ | ⟨-, hspend⟩ := b.spend_cases cls
  · rw [hspend, hpolicy]
  · rw [hspend]

lemma used_spend_self (b : RetryBudget) (cls : Fault.Class) : (b.spend cls).2.used cls =
    if b.used cls < b.policy.granted cls then b.used cls + 1 else b.used cls := by
  obtain ⟨hleft, b', hspend, -, hself, -⟩ | ⟨hspent, hspend⟩ := b.spend_cases cls
  · rw [hspend, if_pos hleft, hself]
  · rw [hspend, if_neg (Nat.not_lt.mpr hspent)]

lemma used_spend_of_ne (b : RetryBudget) (h : other ≠ cls) :
    (b.spend cls).2.used other = b.used other := by
  obtain ⟨-, b', hspend, -, -, hothers⟩ | ⟨-, hspend⟩ := b.spend_cases cls
  · rw [hspend, hothers other h]
  · rw [hspend]

/-! ## Many steps -/

/-- A budget of which nothing is spent. -/
def fresh (policy : RetryPolicy) : RetryBudget := { policy }

@[simp] lemma used_fresh (policy : RetryPolicy) (cls : Fault.Class) :
    (fresh policy).used cls = 0 := by
  cases cls <;> rfl

/-- The budget after faults of the given classes. -/
def after (b : RetryBudget) : List Fault.Class → RetryBudget
  | [] => b
  | cls :: classes => (b.spend cls).2.after classes

/-- The answers to faults of the given classes. -/
def answers (b : RetryBudget) : List Fault.Class → List (Option Duration)
  | [] => []
  | cls :: classes => (b.spend cls).1 :: (b.spend cls).2.answers classes

/-- Those of the answers that are given to faults of one class. -/
def answersTo (b : RetryBudget) (cls : Fault.Class) (classes : List Fault.Class) :
    List (Option Duration) :=
  ((classes.zip (b.answers classes)).filter (·.1 = cls)).map Prod.snd

lemma answersTo_cons_self (b : RetryBudget) (cls : Fault.Class) (classes : List Fault.Class) :
    b.answersTo cls (cls :: classes) =
      (b.spend cls).1 :: (b.spend cls).2.answersTo cls classes := by
  simp [answersTo, answers]

lemma answersTo_cons_of_ne (b : RetryBudget) (h : other ≠ cls) (classes : List Fault.Class) :
    b.answersTo cls (other :: classes) = (b.spend other).2.answersTo cls classes := by
  simp [answersTo, answers, h]

/-- A class cannot tell the budgets from each other. -/
structure Agree (cls : Fault.Class) (b b' : RetryBudget) : Prop where
  policy_eq : b.policy = b'.policy
  used_eq : b.used cls = b'.used cls

namespace Agree

lemma spend_fst (h : Agree cls b b') : (b.spend cls).1 = (b'.spend cls).1 := by
  rw [RetryBudget.spend_fst, RetryBudget.spend_fst, h.policy_eq, h.used_eq]

lemma spend (h : Agree cls b b') : Agree cls (b.spend cls).2 (b'.spend cls).2 where
  policy_eq := by rw [policy_spend, policy_spend, h.policy_eq]
  used_eq := by rw [used_spend_self, used_spend_self, h.policy_eq, h.used_eq]

/-- A fault of another class, which only one of them sees, makes no difference. -/
lemma spend_left (h : Agree cls b b') (hne : cls ≠ other) : Agree cls (b.spend other).2 b' where
  policy_eq := by rw [policy_spend, h.policy_eq]
  used_eq := by rw [used_spend_of_ne b hne, h.used_eq]

end Agree

/-- A budget answers to a class what another one answers that gets no other faults. -/
lemma answersTo_eq (h : Agree cls b b') :
    b.answersTo cls classes = b'.answers (classes.filter (· = cls)) := by
  induction classes generalizing b b' with
  | nil => rfl
  | cons next classes ih =>
    by_cases hnext : cls = next
    · subst hnext
      rw [answersTo_cons_self, List.filter_cons_of_pos (by simp), answers, h.spend_fst, ih h.spend]
    · rw [answersTo_cons_of_ne b (Ne.symm hnext), ih (h.spend_left hnext),
        List.filter_cons_of_neg (by simpa using Ne.symm hnext)]

lemma policy_after (b : RetryBudget) (classes : List Fault.Class) :
    (b.after classes).policy = b.policy := by
  induction classes generalizing b with
  | nil => rfl
  | cons cls classes ih => rw [after, ih, policy_spend]

/-- What is spent for a class is a retry for each of its faults, up to all that are granted. -/
lemma used_after (h : b.used cls ≤ b.policy.granted cls) : (b.after classes).used cls =
    min (b.used cls + classes.count cls) (b.policy.granted cls) := by
  induction classes generalizing b with
  | nil => simp [after, h]
  | cons next classes ih =>
    by_cases hnext : cls = next
    · -- a class that has spent all of its retries stays there
      subst hnext
      have hself := b.used_spend_self cls
      have hle : (b.spend cls).2.used cls ≤ b.policy.granted cls := by
        rw [hself]
        split <;> omega
      rw [after, ih (by rwa [policy_spend]), policy_spend, hself, List.count_cons_self]
      split <;> omega
    · have hsame := b.used_spend_of_ne hnext
      rw [after, ih (by rwa [hsame, policy_spend]), hsame, policy_spend,
        List.count_cons_of_ne (Ne.symm hnext)]

lemma getElem?_answers (b : RetryBudget) (classes : List Fault.Class) (k : Nat) :
    (b.answers classes)[k]? =
      classes[k]?.map fun cls => ((b.after (classes.take k)).spend cls).1 := by
  induction classes generalizing b k with
  | nil => rfl
  | cons cls classes ih =>
    cases k with
    | zero => rfl
    | succ k => exact ih _ k

lemma after_take_succ (b : RetryBudget) (h : classes[k]? = some cls) :
    b.after (classes.take (k + 1)) = ((b.after (classes.take k)).spend cls).2 := by
  induction classes generalizing b k with
  | nil => cases h
  | cons next classes ih =>
    cases k with
    | zero =>
      cases h
      rfl
    | succ k => exact ih _ h

/-! ## From the start -/

lemma granted_lt (policy : RetryPolicy) (cls : Fault.Class) : policy.granted cls < UInt32.size := by
  cases cls with
  | connection => exact policy.maxConnectionRetries.toNat_lt
  | timeout => exact policy.maxTimeoutRetries.toNat_lt
  | fatal => exact (by decide : 0 < UInt32.size)

lemma used_after_fresh (policy : RetryPolicy) (cls : Fault.Class) (classes : List Fault.Class) :
    ((fresh policy).after classes).used cls = min (classes.count cls) (policy.granted cls) := by
  rw [used_after (by simp), used_fresh, Nat.zero_add]
  rfl

lemma answer_eq (policy : RetryPolicy) (h : classes[k]? = some cls) :
    ((fresh policy).answers classes)[k]? = some
      (if (classes.take (k + 1)).count cls ≤ policy.granted cls then
        some (Backoff.delay policy.baseInterval (.ofNat ((classes.take (k + 1)).count cls)))
      else none) := by
  have hcount : (classes.take (k + 1)).count cls = (classes.take k).count cls + 1 := by
    rw [List.take_add_one, h, Option.toList_some, List.count_append, List.count_singleton_self]
  have hgranted := granted_lt policy cls
  rw [getElem?_answers, h, Option.map_some, spend_fst, policy_after, used_after_fresh, hcount]
  show some (if _ < policy.granted cls then some (policy.baseInterval.times _) else none) = _
  by_cases hleft : (classes.take k).count cls + 1 ≤ policy.granted cls
  · have hword := UInt32.toNat_ofNat_of_lt' (Nat.lt_of_le_of_lt hleft hgranted)
    rw [if_pos hleft, if_pos (by omega), Backoff.delay, hword, Nat.min_eq_left (by omega)]
  · rw [if_neg hleft, if_neg (by omega)]

/-! ## Main statement -/

/-- From a budget of which nothing is spent, the faults of a class are answered as if they had come
alone, and fatal ones are refused and change nothing. The `i`-th fault of a class waits `i` base
intervals if so many retries are granted to the class, and otherwise it is refused. A counter has
counted the faults of its class up to all that are granted, and it can be counted up in its word
whenever there is another answer. -/
theorem classes_do_not_interfere (policy : RetryPolicy) (classes : List Fault.Class) :
    (∀ cls, (fresh policy).answersTo cls classes =
      (fresh policy).answers (classes.filter (· = cls))) ∧
    (∀ k, classes[k]? = some .fatal → ((fresh policy).answers classes)[k]? = some none ∧
      (fresh policy).after (classes.take (k + 1)) = (fresh policy).after (classes.take k)) ∧
    (∀ k cls i, classes[k]? = some cls → (classes.take (k + 1)).count cls = i →
      ((fresh policy).answers classes)[k]? = some
        (if i ≤ policy.granted cls then
          some (Backoff.delay policy.baseInterval (.ofNat i)) else none)) ∧
    ((fresh policy).after classes).connectionRetries.toNat =
      min (classes.count .connection) policy.maxConnectionRetries.toNat ∧
    ((fresh policy).after classes).timeoutRetries.toNat =
      min (classes.count .timeout) policy.maxTimeoutRetries.toNat ∧
    ∀ cls, (((fresh policy).after classes).spend cls).1.isSome →
      ((fresh policy).after classes).used cls + 1 < UInt32.size := by
  refine ⟨fun cls => answersTo_eq ⟨rfl, rfl⟩, fun k hfatal => ⟨?_, ?_⟩, ?_,
    used_after_fresh policy .connection classes, used_after_fresh policy .timeout classes, ?_⟩
  · rw [getElem?_answers, hfatal]
    rfl
  · rw [after_take_succ _ hfatal]
    rfl
  · rintro k cls i hcls rfl
    exact answer_eq policy hcls
  · intro cls hsome
    rw [spend_fst] at hsome
    split at hsome
    · rename_i hleft
      have hgranted := granted_lt ((fresh policy).after classes).policy cls
      omega
    · cases hsome

/-! Both classes at once, where the timeouts are out of retries in between. -/

/-- Faults of all classes. -/
def mixed : List Fault.Class := [.connection, .timeout, .connection, .timeout, .fatal]

theorem classes_do_not_interfere_mixed :
    let budget := fresh ⟨.ofMillis 400, 3, 1⟩
    budget.answersTo .connection mixed = budget.answers [.connection, .connection] ∧
      (budget.answers mixed)[2]? = some (some (.ofMillis 800)) ∧
      (budget.answers mixed)[3]? = some none ∧
      (budget.answers mixed)[4]? = some none ∧
      budget.after mixed = budget.after (mixed.take 4) ∧
      ((budget.after mixed).spend .connection).1.isSome ∧
      (budget.after mixed).used .connection + 1 < UInt32.size := by
  intro budget
  obtain ⟨halone, hfatal, hanswer, -, -, hword⟩ :=
    classes_do_not_interfere ⟨.ofMillis 400, 3, 1⟩ mixed
  obtain ⟨hrefused, hsame⟩ := hfatal 4 rfl
  have hleft : ((budget.after mixed).spend .connection).1.isSome := by decide
  exact ⟨halone .connection, hanswer 2 .connection 2 rfl rfl, hanswer 3 .timeout 2 rfl rfl,
    hrefused, hsame, hleft, hword .connection hleft⟩

end BulkWrite.RetryBudget
