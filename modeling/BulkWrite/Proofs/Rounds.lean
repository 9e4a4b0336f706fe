import Mathlib.Tactic.Lemma
import BulkWrite.Execution

/-!
# Rounds of an execution

`Execution.run` takes all rounds of an execution at once, while a worker takes them one by one as the
replies come in. Both are the same: replies that take the first attempt at a batch to a result,
reply by reply, are those that a run of the batch asks for, and it has that result (`run_of_yields`).
-/

namespace BulkWrite.Execution

variable {α : Type}

/-- The attempt that follows after the given replies, if each of them leads to a retry. -/
def after (e : Execution α) : List Reply → Option (Execution α)
  | [] => some e
  | reply :: replies =>
    match e.next reply with
    | .retry _ e' => e'.after replies
    | .done _ => none

/-- The replies take an attempt to a result, which the last of them brings. -/
def Yields (e : Execution α) (replies : List Reply) (result : BatchResult) : Prop :=
  ∃ earlier last e', replies = earlier ++ [last] ∧ e.after earlier = some e' ∧
    e'.next last = .done result

variable {e e' e'' : Execution α} {reply : Reply} {replies : List Reply} {wait : Duration}
  {result : BatchResult}

/-- One more reply leads to one more retry. -/
lemma after_concat (h : e.after replies = some e') (hnext : e'.next reply = .retry wait e'') :
    e.after (replies ++ [reply]) = some e'' := by
  induction replies generalizing e with
  | nil =>
    obtain rfl : e = e' := Option.some.inj h
    rw [List.nil_append, after, hnext]
    rfl
  | cons first replies ih =>
    rw [after] at h
    rw [List.cons_append, after]
    cases hfirst : e.next first with
    | retry wait e₁ =>
      rw [hfirst] at h
      exact ih h
    | done result =>
      rw [hfirst] at h
      cases h

lemma Yields.of_after (h : e.after replies = some e') (hnext : e'.next reply = .done result) :
    e.Yields (replies ++ [reply]) result :=
  ⟨replies, reply, e', rfl, h, hnext⟩

/-- A round that brings a result is the last one. -/
lemma rounds_of_done {answer : Nat → Reply} {k : Nat} (h : e.next (answer k) = .done result) :
    rounds e answer k = ([], result) := by
  rw [rounds]
  split
  · rename_i heq
    rw [h] at heq
    obtain rfl := Next.done.inj heq
    rfl
  · rename_i heq
    rw [h] at heq
    cases heq

/-- A round that leads to a retry is followed by those of the next attempt. -/
lemma rounds_of_retry {answer : Nat → Reply} {k : Nat} (h : e.next (answer k) = .retry wait e') :
    rounds e answer k =
      (wait :: (rounds e' answer (k + 1)).1, (rounds e' answer (k + 1)).2) := by
  rw [rounds]
  split
  · rename_i heq
    rw [h] at heq
    cases heq
  · rename_i heq
    rw [h] at heq
    obtain ⟨rfl, rfl⟩ := Next.retry.inj heq
    rfl

/-- The rounds from an attempt on are those that the replies take it through. -/
lemma rounds_of_after {last : Reply} (h : e.after replies = some e')
    (hnext : e'.next last = .done result) {answer : Nat → Reply} {k : Nat}
    (hanswer : ∀ i reply, (replies ++ [last])[i]? = some reply → answer (k + i) = reply) :
    (rounds e answer k).1.length = replies.length ∧ (rounds e answer k).2 = result := by
  induction replies generalizing e k with
  | nil =>
    obtain rfl : e = e' := Option.some.inj h
    have hlast : answer k = last := hanswer 0 last rfl
    rw [← hlast] at hnext
    rw [rounds_of_done hnext]
    exact ⟨rfl, rfl⟩
  | cons first replies ih =>
    have hfirst : answer k = first := hanswer 0 first rfl
    have hrest (i : Nat) (reply : Reply) (hi : (replies ++ [last])[i]? = some reply) :
        answer (k + 1 + i) = reply := by
      rw [Nat.add_assoc, Nat.add_comm 1 i]
      exact hanswer (i + 1) reply hi
    rw [after, ← hfirst] at h
    cases hround : e.next (answer k) with
    | done result =>
      rw [hround] at h
      cases h
    | retry wait e₁ =>
      rw [hround] at h
      obtain ⟨hlength, hresult⟩ := ih h hrest
      rw [rounds_of_retry hround]
      exact ⟨congrArg (· + 1) hlength, hresult⟩

/-- What replies take a batch to, they take it to in every run that begins with just these
replies. -/
lemma run_eq_of_yields {policy : RetryPolicy} {batch : Batch α} (hsome : batch.items ≠ [])
    (h : (start policy batch).Yields replies result) {answer : Nat → Reply}
    (hanswer : ∀ i reply, replies[i]? = some reply → answer i = reply) :
    (run policy batch answer).result = result ∧
      (run policy batch answer).submissions = replies.length := by
  obtain ⟨earlier, last, e', rfl, hafter, hnext⟩ := h
  have hfrom (i : Nat) (reply : Reply) (hi : (earlier ++ [last])[i]? = some reply) :
      answer (0 + i) = reply := by
    rw [Nat.zero_add]
    exact hanswer i reply hi
  obtain ⟨hlength, hresult⟩ := rounds_of_after hafter hnext hfrom
  rw [run, if_neg (by simpa using hsome), List.length_append]
  exact ⟨hresult, congrArg (· + 1) hlength⟩

/-- What replies take a batch to, they take it to in a run that asks for just these replies. -/
theorem run_of_yields {policy : RetryPolicy} {batch : Batch α} (hsome : batch.items ≠ [])
    (h : (start policy batch).Yields replies result) :
    ∃ answer : Nat → Reply, (run policy batch answer).result = result ∧
      replies = (List.range (run policy batch answer).submissions).map answer := by
  -- after the last reply any answer will do, for there is no round that asks for it
  let answer (k : Nat) : Reply := replies[k]?.getD (.ok [])
  have hanswer (i : Nat) (reply : Reply) (hi : replies[i]? = some reply) : answer i = reply :=
    congrArg (Option.getD · (.ok [])) hi
  obtain ⟨hresult, hsubmissions⟩ := run_eq_of_yields hsome h hanswer
  refine ⟨answer, hresult, ?_⟩
  rw [hsubmissions]
  apply List.ext_getElem (by simp)
  intro i hi hi'
  rw [List.getElem_map, List.getElem_range]
  exact (hanswer i _ (List.getElem?_eq_getElem hi)).symm

end BulkWrite.Execution
