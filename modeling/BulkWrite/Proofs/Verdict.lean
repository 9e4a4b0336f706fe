import BulkWrite.Proofs.Retries

/-!
# What the result of a batch tells

The result of a batch is read in two ways: by its fault, and by the outcomes of its items. Both tell
the same (`Execution.run_tells`): a batch counts as clean just when every one of its items counts as
written, whatever the transport brought back. The result is built on several ways out of an
execution, but all of them are a verdict on one reply (`Execution.run_verdict`), and a verdict holds
either one outcome for each item or a fault and no outcome at all.
-/

namespace BulkWrite

/-! ## Reading a result -/

namespace BatchResult

variable {n : Nat} {r : BatchResult}

/-- The result of a batch of `n` items leaves none of them out. -/
structure Tells (n : Nat) (r : BatchResult) : Prop where
  /-- The batch is clean just when all of its items were written. -/
  clean_iff : r.hasErrors = false ↔ r.succeededCount = n
  /-- A fault comes without outcomes. -/
  items_of_error : r.error ≠ none → r.items = []
  /-- Without a fault there is one outcome for each item. -/
  length_of_response : r.error = none → r.items.length = n
  /-- These are either written or rejected. -/
  count_of_response : r.error = none → r.succeededCount + r.failedCount = n
  /-- The rejected items are listed in the order of the batch. -/
  failedItems_of_response : r.error = none →
    r.failedItems = r.items.filter fun item => item.status = .failed

lemma succeededCount_add_failedCount (r : BatchResult) :
    r.succeededCount + r.failedCount = r.items.length := by
  unfold succeededCount failedCount failedItems
  rw [Nat.add_comm]
  exact List.length_eq_length_filter_add ItemResult.isFailed |>.symm

/-- Nothing was rejected just when everything was written. -/
lemma any_isFailed_eq_false_iff (r : BatchResult) :
    r.items.any ItemResult.isFailed = false ↔ r.succeededCount = r.items.length := by
  rw [succeededCount, List.length_filter_eq_length_iff, List.any_eq_false]
  simp

/-- One outcome for each item leaves none of them out. -/
lemma Tells.of_response (hitems : r.items.length = n) (herror : r.error = none) : r.Tells n where
  clean_iff := by
    rw [hasErrors, herror, Option.isSome_none, Bool.false_or, any_isFailed_eq_false_iff, hitems]
  items_of_error h := absurd herror h
  length_of_response _ := hitems
  count_of_response _ := by rw [succeededCount_add_failedCount, hitems]
  failedItems_of_response _ := rfl

/-- Nor does a fault, if there are items. -/
lemma Tells.of_fault {fault : Fault} (hn : 0 < n) (hitems : r.items = [])
    (herror : r.error = some fault) : r.Tells n where
  clean_iff := by
    have hcount : r.succeededCount = 0 := by rw [succeededCount, hitems]; rfl
    rw [hasErrors, herror, hcount]
    simp
    omega
  items_of_error _ := hitems
  length_of_response h := by rw [herror] at h; cases h
  count_of_response h := by rw [herror] at h; cases h
  failedItems_of_response h := by rw [herror] at h; cases h

end BatchResult

namespace Execution

variable {α : Type}

/-! ## Verdicts -/

/-- The verdict on a reply leaves no item out. -/
lemma tells_of_verdict {n : Nat} {reply : Reply} {r : BatchResult} (hn : 0 < n)
    (h : (r.items, r.error) = verdict n reply) : r.Tells n := by
  cases reply with
  | error fault =>
    obtain ⟨hitems, herror⟩ := Prod.mk.inj h
    exact .of_fault hn hitems herror
  | ok items =>
    by_cases hcount : items.length = n
    · rw [verdict, if_pos hcount] at h
      obtain ⟨rfl, herror⟩ := Prod.mk.inj h
      exact .of_response hcount herror
    · rw [verdict, if_neg hcount] at h
      obtain ⟨hitems, herror⟩ := Prod.mk.inj h
      exact .of_fault hn hitems herror

lemma eq_ok_of_verdict {n : Nat} {reply : Reply} {items : List ItemResult}
    (h : (items, none) = verdict n reply) : reply = .ok items := by
  cases reply with
  | error fault => cases (Prod.mk.inj h).2
  | ok items' =>
    by_cases hcount : items'.length = n
    · rw [verdict, if_pos hcount] at h
      rw [(Prod.mk.inj h).1]
    · rw [verdict, if_neg hcount] at h
      cases (Prod.mk.inj h).2

/-- The result of a batch with items is the verdict on the reply to its last submission. -/
lemma run_verdict (policy : RetryPolicy) {batch : Batch α} (hsome : batch.items ≠ [])
    (answer : Nat → Reply) :
    ∃ k, (run policy batch answer).submissions = k + 1 ∧
      ((run policy batch answer).result.items, (run policy batch answer).result.error) =
        verdict batch.items.length (answer k) := by
  obtain ⟨k, hends, hleast⟩ := exists_first_end policy answer
  obtain ⟨hlength, -, hverdict⟩ := rounds_of_first_end batch hends hleast
  refine ⟨k, ?_⟩
  rw [run, if_neg (by simpa using hsome)]
  exact ⟨congrArg (· + 1) hlength, hverdict⟩

/-! ## Main statement -/

/-- Whatever a transport answers to the submissions of a batch, the result of the batch leaves none
of its items out: it is clean just when all of them were written, a fault comes without outcomes,
and without a fault there is one outcome for each item, as the last reply had them. -/
theorem run_tells (policy : RetryPolicy) (batch : Batch α) (answer : Nat → Reply) :
    (run policy batch answer).result.Tells batch.items.length ∧
      (batch.items ≠ [] → (run policy batch answer).result.error = none →
        answer ((run policy batch answer).submissions - 1) =
          .ok (run policy batch answer).result.items) := by
  by_cases hnone : batch.items = []
  · -- a batch without items is not submitted, and nothing is wrong with it
    rw [run, if_pos (by simpa using hnone), hnone]
    exact ⟨.of_response rfl rfl, fun hsome => absurd rfl hsome⟩
  · obtain ⟨k, hsubmissions, hverdict⟩ := run_verdict policy hnone answer
    refine ⟨tells_of_verdict (List.length_pos_iff.mpr hnone) hverdict, fun _ herror => ?_⟩
    rw [herror] at hverdict
    rw [hsubmissions, Nat.add_sub_cancel]
    exact eq_ok_of_verdict hverdict

/-! A response to two items of which one is rejected, after a passing fault. -/

def mixedPolicy : RetryPolicy := ⟨.ofMillis 10, 1, 0⟩

def mixedReplies : Nat → Reply
  | 0 => .error (.connect "connection refused")
  | _ => .ok [.success "a", .failed "b" [⟨"no such class"⟩]]

theorem run_tells_mixed :
    (run mixedPolicy ⟨3, ["a", "b"]⟩ mixedReplies).result.hasErrors = true ∧
      (run mixedPolicy ⟨3, ["a", "b"]⟩ mixedReplies).result.failedCount = 1 := by
  have hends : EndsAt mixedPolicy mixedReplies 1 := trivial
  have hleast : ∀ i < 1, ¬EndsAt mixedPolicy mixedReplies i
    | 0, _ => (by decide : 0 ≠ 1)
  obtain ⟨-, -, hverdict⟩ := rounds_of_first_end (⟨3, ["a", "b"]⟩ : Batch String) hends hleast
  obtain ⟨hitems, herror⟩ := Prod.mk.inj hverdict
  obtain ⟨htells, -⟩ := run_tells mixedPolicy ⟨3, ["a", "b"]⟩ mixedReplies
  rw [run, if_neg (by decide)] at htells ⊢
  have hwritten :
      (rounds (start mixedPolicy ⟨3, ["a", "b"]⟩) mixedReplies 0).2.succeededCount = 1 := by
    rw [BatchResult.succeededCount, hitems]
    rfl
  have hcount := htells.count_of_response herror
  have hclean := htells.clean_iff
  rw [hwritten] at hclean hcount
  exact ⟨by simpa using hclean, Nat.add_left_cancel hcount⟩

end Execution

end BulkWrite
