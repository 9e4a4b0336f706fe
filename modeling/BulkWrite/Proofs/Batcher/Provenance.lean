import BulkWrite.Proofs.Batcher.Order
import BulkWrite.Proofs.Rounds

/-!
# Where results come from

A worker executes a batch that was taken from the queue, and has got just the replies to that batch
so far: no two workers execute batches of one number, and a batch that waits has no replies yet. So
a result is what the replies to one batch take it to (`Executed.yielded`).
-/

namespace BulkWrite.Batcher

open History

variable {α : Type}

/-- What a worker executes, if anything. -/
def Worker.execution? : Worker α → Option (Execution α)
  | .submitting e | .backingOff _ e => some e
  | _ => none

lemma numbers_of_execution {w : Worker α} {e : Execution α} (h : w.execution? = some e) :
    w.numbers = [e.batch.sequence] := by
  cases w with
  | submitting f => rw [← Option.some.inj h]; rfl
  | backingOff wait f => rw [← Option.some.inj h]; rfl
  | _ => cases h

/-! ## One place for each batch -/

namespace Balanced

variable {s : State α} {history : List (Event α)} {worker other : Nat} {w x : Worker α}
  {e f : Execution α}

/-- No two workers execute batches of one number. -/
lemma worker_unique (h : Balanced s history) (hw : s.workers[worker]? = some w)
    (hx : s.workers[other]? = some x) (he : w.execution? = some e) (hf : x.execution? = some f)
    (hsame : e.batch.sequence = f.batch.sequence) : worker = other := by
  have hafloat := (List.nodup_append.mp h.nodup).2.1
  have hworkers : (s.workers.flatMap Worker.numbers).Nodup :=
    hafloat.sublist ((List.sublist_append_right _ _).trans (List.sublist_append_left _ _))
  -- the shares of different workers have no number in common
  have hdisjoint := List.pairwise_iff_getElem.mp (List.nodup_flatMap.mp hworkers).2
  obtain ⟨hworker, rfl⟩ := List.getElem?_eq_some_iff.mp hw
  obtain ⟨hother, rfl⟩ := List.getElem?_eq_some_iff.mp hx
  have hmem : e.batch.sequence ∈ s.workers[worker].numbers := by simp [numbers_of_execution he]
  have hmem' : e.batch.sequence ∈ s.workers[other].numbers := by
    simp [numbers_of_execution hf, hsame]
  rcases Nat.lt_trichotomy worker other with hlt | heq | hgt
  · exact absurd hmem' (hdisjoint _ _ hworker hother hlt hmem)
  · exact heq
  · exact absurd hmem (hdisjoint _ _ hother hworker hgt hmem')

/-- A batch that a worker executes has no result yet. -/
lemma sequence_ne (h : Balanced s history)
    (hcalled : called history = finished history ++ s.dispatcher.inHand)
    (hw : s.workers[worker]? = some w) (he : w.execution? = some e) {result : BatchResult}
    (hresult : result ∈ called history ++ s.results) : result.sequence ≠ e.batch.sequence := by
  have hworker : e.batch.sequence ∈ s.workers.flatMap Worker.numbers :=
    List.mem_flatMap.mpr ⟨w, List.mem_of_getElem? hw, by simp [numbers_of_execution he]⟩
  obtain ⟨-, hafloat, hgone⟩ := List.nodup_append.mp h.nodup
  obtain ⟨-, -, hwaits⟩ := List.nodup_append.mp hafloat
  rw [hcalled, List.append_assoc, List.mem_append] at hresult
  rcases hresult with hfinished | hresult
  · have hsettled : result.sequence ∈ settled history :=
      List.mem_flatMap.mpr ⟨_, mem_finished.mp hfinished, List.mem_singleton.mpr rfl⟩
    exact hgone _ (List.mem_append_left _ hsettled) _
      (List.mem_append_left _ (List.mem_append_right _ hworker))
  · have hresults : result ∈ s.results ++ s.dispatcher.inHand := by
      rcases List.mem_append.mp hresult with hmem | hmem
      · exact List.mem_append_right _ hmem
      · exact List.mem_append_left _ hmem
    exact (hwaits _ (List.mem_append_right _ hworker) _ (List.mem_map_of_mem hresults)).symm

end Balanced

/-! ## Results -/

/-- What workers execute and what results are made of. -/
structure Executed (s : State α) (history : List (Event α)) : Prop where
  taken_of_replied {number : Nat} :
    replies number history ≠ [] → number ∈ (taken history).map Batch.sequence
  underway {worker : Nat} {w : Worker α} {e : Execution α} :
    s.workers[worker]? = some w → w.execution? = some e → e.batch ∈ taken history ∧
      (Execution.start s.config.retry e.batch).after (replies e.batch.sequence history) = some e
  yielded {result : BatchResult} : result ∈ called history ++ s.results →
    ∃ batch ∈ taken history, result.sequence = batch.sequence ∧
      (Execution.start s.config.retry batch).Yields (replies batch.sequence history) result
  taken_of_broken {batch : Batch α} : batch ∈ broken history → batch ∈ taken history

namespace Executed

variable {s t u : State α} {worker : Nat} {label : Label α} {history events : List (Event α)}

/-- Steps of calls and of the dispatcher leave batches to the workers. -/
lemma of_other (h : Executed s history) (hworkers : t.workers = s.workers)
    (hconfig : t.config = s.config) (htaken : taken events = []) (hbroken : broken events = [])
    (hreplies : ∀ number, replies number events = [])
    (hcalled : called (history ++ events) ++ t.results = called history ++ s.results) :
    Executed t (history ++ events) := by
  have htaken' : taken (history ++ events) = taken history := by
    rw [Projection.append, htaken, List.append_nil]
  have hreplies' (number : Nat) : replies number (history ++ events) = replies number history := by
    rw [Projection.append, hreplies, List.append_nil]
  constructor
  case taken_of_replied =>
    intro number
    rw [htaken', hreplies']
    exact h.taken_of_replied
  case underway =>
    intro worker w e
    rw [htaken', hreplies', hworkers, hconfig]
    exact h.underway
  case yielded =>
    intro result
    rw [htaken', hcalled, hconfig]
    simp only [hreplies']
    exact h.yielded
  case taken_of_broken =>
    intro batch
    rw [htaken', Projection.append, hbroken, List.append_nil]
    exact h.taken_of_broken

/-- A worker takes a batch to which there are no replies yet. -/
lemma of_taken (h : Executed s history) (horder : InOrder s history) (hbalanced : Balanced s history)
    {batch : Batch α} {queue : List (Batch α)} (head : s.queue = batch :: queue) :
    Executed ({ s with queue }.setWorker worker (.submitting (.start s.config.retry batch)))
      (history ++ [.taken worker batch, .submitted worker batch]) := by
  have htaken : taken (history ++ [.taken worker batch, .submitted worker batch]) =
      taken history ++ [batch] := by
    simp
  have hreplies (number : Nat) :
      replies number (history ++ [.taken worker batch, .submitted worker batch]) =
        replies number history := by
    simp
  -- a number with replies belongs to a batch that was taken before, and this one was not
  have hnone : replies batch.sequence history = [] := by
    by_contra hsome
    have hsub := horder.queued.map Batch.sequence
    rw [head, List.map_append] at hsub
    have hnodup := (hbalanced.numbered ▸ List.nodup_range : (numbers history).Nodup).sublist hsub
    exact (List.nodup_append.mp hnodup).2.2 _ (h.taken_of_replied hsome) _
      (List.mem_map_of_mem List.mem_cons_self) rfl
  constructor
  case taken_of_replied =>
    intro number hsome
    rw [hreplies] at hsome
    rw [htaken, List.map_append]
    exact List.mem_append_left _ (h.taken_of_replied hsome)
  case underway =>
    intro other w e hother he
    rw [htaken, hreplies]
    rcases State.point_of_setWorker hother with ⟨rfl, rfl⟩ | ⟨-, hold⟩
    · obtain rfl := Option.some.inj he
      refine ⟨List.mem_append_right _ (List.mem_singleton.mpr rfl), ?_⟩
      show (Execution.start s.config.retry batch).after (replies batch.sequence history) = _
      rw [hnone]
      rfl
    · obtain ⟨hmem, hafter⟩ := h.underway hold he
      exact ⟨List.mem_append_left _ hmem, hafter⟩
  case yielded =>
    intro result hresult
    rw [htaken]
    simp only [hreplies]
    obtain ⟨some, hmem, hyields⟩ := h.yielded
      (by simpa [State.setWorker] using hresult)
    exact ⟨some, List.mem_append_left _ hmem, hyields⟩
  case taken_of_broken =>
    intro some hbroken
    rw [htaken]
    exact List.mem_append_left _ (h.taken_of_broken (by simpa using hbroken))

/-- A reply to a worker is a reply to its batch and to no other one. -/
lemma of_replied (h : Executed s history) (hbalanced : Balanced s history)
    (hhand : called history = finished history ++ s.dispatcher.inHand) {e : Execution α}
    {reply : Reply} {next : Worker α} (at_point : s.workers[worker]? = some (.submitting e))
    (hworkers : u.workers = s.workers) (hconfig : u.config = s.config)
    (hnext : ∀ f, next.execution? = some f → ∃ wait, e.next reply = .retry wait f)
    (hresults : u.results = s.results ∨
      ∃ result, e.next reply = .done result ∧ u.results = s.results ++ [result]) :
    Executed (u.setWorker worker next) (history ++ [.replied worker e.batch reply]) := by
  obtain ⟨hbatch, hafter⟩ := h.underway at_point rfl
  have htaken : taken (history ++ [.replied worker e.batch reply]) = taken history := by
    simp
  have hown : replies e.batch.sequence (history ++ [.replied worker e.batch reply]) =
      replies e.batch.sequence history ++ [reply] := by
    simp
  have hothers {number : Nat} (hne : number ≠ e.batch.sequence) :
      replies number (history ++ [.replied worker e.batch reply]) = replies number history := by
    simp [Ne.symm hne]
  have hconfig' : (u.setWorker worker next).config = s.config := hconfig
  constructor
  case taken_of_replied =>
    intro number hsome
    rw [htaken]
    by_cases hnumber : number = e.batch.sequence
    · rw [hnumber]
      exact List.mem_map_of_mem hbatch
    · rw [hothers hnumber] at hsome
      exact h.taken_of_replied hsome
  case underway =>
    intro other w f hother hf
    rw [htaken, hconfig']
    rcases State.point_of_setWorker hother with ⟨rfl, rfl⟩ | ⟨hne, hold⟩
    · obtain ⟨wait, hretry⟩ := hnext f hf
      rw [Execution.batch_of_retry hretry, hown]
      exact ⟨hbatch, Execution.after_concat hafter hretry⟩
    · -- the reply has another number than the batch of any other worker
      rw [hworkers] at hold
      have hnumber : f.batch.sequence ≠ e.batch.sequence :=
        fun heq => hne (hbalanced.worker_unique hold at_point hf rfl heq)
      rw [hothers hnumber]
      exact h.underway hold hf
  case yielded =>
    intro result hresult
    rw [htaken, hconfig']
    have hold : result ∈ called history ++ s.results ∨ e.next reply = .done result := by
      have hresult' : result ∈ called history ++ u.results := by
        simpa [State.setWorker] using hresult
      rcases hresults with heq | ⟨result', hdone, heq⟩
      · exact .inl (heq ▸ hresult')
      · rw [heq, ← List.append_assoc] at hresult'
        rcases List.mem_append.mp hresult' with hmem | hmem
        · exact .inl hmem
        · rw [List.mem_singleton.mp hmem]
          exact .inr hdone
    rcases hold with hold | hdone
    · -- nor does it have the number of an old result
      obtain ⟨batch, hmem, hsequence, hyields⟩ := h.yielded hold
      have hnumber := hbalanced.sequence_ne hhand at_point rfl hold
      refine ⟨batch, hmem, hsequence, ?_⟩
      rw [hothers (hsequence ▸ hnumber)]
      exact hyields
    · refine ⟨e.batch, hbatch, Execution.sequence_of_done hdone, ?_⟩
      rw [hown]
      exact .of_after hafter hdone
  case taken_of_broken =>
    intro batch hbroken
    rw [htaken]
    exact h.taken_of_broken (by simpa using hbroken)

/-- A worker that goes on with its batch, or breaks down with it, or had none, gets no reply. -/
lemma of_unreplied (h : Executed s history) {w next : Worker α}
    (at_point : s.workers[worker]? = some w) (hworkers : u.workers = s.workers)
    (hconfig : u.config = s.config) (hresults : u.results = s.results)
    (htaken : taken events = []) (hreplies : ∀ number, replies number events = [])
    (hcalled : called events = [])
    (hnext : ∀ f, next.execution? = some f → w.execution? = some f)
    (hbroken : ∀ batch ∈ broken events, ∃ e, w.execution? = some e ∧ e.batch = batch) :
    Executed (u.setWorker worker next) (history ++ events) := by
  have htaken' : taken (history ++ events) = taken history := by
    rw [Projection.append, htaken, List.append_nil]
  have hreplies' (number : Nat) : replies number (history ++ events) = replies number history := by
    rw [Projection.append, hreplies, List.append_nil]
  have hconfig' : (u.setWorker worker next).config = s.config := hconfig
  constructor
  case taken_of_replied =>
    intro number
    rw [htaken', hreplies']
    exact h.taken_of_replied
  case underway =>
    intro other v f hother hf
    rw [htaken', hreplies', hconfig']
    rcases State.point_of_setWorker hother with ⟨rfl, rfl⟩ | ⟨-, hold⟩
    · exact h.underway at_point (hnext f hf)
    · exact h.underway (hworkers ▸ hold) hf
  case yielded =>
    intro result hresult
    rw [htaken', hconfig']
    simp only [hreplies']
    refine h.yielded ?_
    rw [Projection.append, hcalled, List.append_nil] at hresult
    exact hresults ▸ hresult
  case taken_of_broken =>
    intro batch hmem
    rw [htaken']
    rw [Projection.append] at hmem
    rcases List.mem_append.mp hmem with hmem | hmem
    · exact h.taken_of_broken hmem
    · obtain ⟨e, he, rfl⟩ := hbroken batch hmem
      exact (h.underway at_point he).1

lemma of_worker (h : Executed s history) (horder : InOrder s history)
    (hbalanced : Balanced s history)
    (hhand : called history = finished history ++ s.dispatcher.inHand) {w next : Worker α}
    (at_point : s.workers[worker]? = some w) (turn : WorkerTurn s worker label w next u events) :
    Executed (u.setWorker worker next) (history ++ events) := by
  cases turn with
  | taken head => exact h.of_taken horder hbalanced head
  | retried hretry =>
    refine h.of_replied hbalanced hhand at_point rfl rfl ?_ (.inl rfl)
    intro f hf
    obtain rfl := Option.some.inj hf
    exact ⟨_, hretry⟩
  | concluded hdone =>
    refine h.of_replied hbalanced hhand at_point rfl rfl ?_ (.inr ⟨_, hdone, rfl⟩)
    intro f hf
    cases hf
  | exited empty closed =>
    refine h.of_unreplied at_point rfl rfl rfl rfl (fun _ => rfl) rfl ?_ ?_
    · intro f hf
      cases hf
    · intro batch hbatch
      cases hbatch
  | broken served =>
    refine h.of_unreplied at_point rfl rfl rfl rfl (fun _ => rfl) rfl ?_ ?_
    · intro f hf
      cases hf
    · intro batch hbatch
      exact ⟨_, rfl, (List.mem_singleton.mp hbatch).symm⟩
  | @brokenLast e unserved =>
    refine h.of_unreplied at_point rfl rfl rfl ?_ ?_ ?_ ?_ ?_
    · simp
    · simp
    · simp
    · intro f hf
      cases hf
    · intro batch hbatch
      have heq : batch = e.batch := by simpa using hbatch
      exact ⟨_, rfl, heq.symm⟩
  | resumed =>
    refine h.of_unreplied at_point rfl rfl rfl rfl (fun _ => rfl) rfl (fun f hf => hf) ?_
    intro batch hbatch
    cases hbatch

lemma step (h : Executed s history) (horder : InOrder s history) (hbalanced : Balanced s history)
    (hhand : called history = finished history ++ s.dispatcher.inHand)
    (move : Move s label t events) : Executed t (history ++ events) := by
  cases move with
  | begun request => exact h.of_other rfl rfl rfl rfl (fun _ => rfl) (by simp)
  | @call call label phase next u events at_phase turn =>
    have hresults : (u.setCall call next).results = s.results := turn.results_eq
    refine h.of_other turn.workers_eq turn.config_eq ?_ ?_ ?_ ?_
    · cases turn <;> rfl
    · cases turn <;> rfl
    · cases turn <;> exact fun _ => rfl
    · rw [hresults]
      cases turn <;> simp
  | worker at_point turn => exact h.of_worker horder hbalanced hhand at_point turn
  | dispatcher turn =>
    refine h.of_other ?_ ?_ ?_ ?_ ?_ ?_
    · cases turn <;> rfl
    · cases turn <;> rfl
    · cases turn <;> rfl
    · cases turn <;> rfl
    · cases turn <;> exact fun _ => rfl
    · cases turn with
      | received idle head => simp [head]
      | _ => simp [State.wakeCalls]

end Executed

/-- What the workers of every run execute. -/
theorem Runs.executed {config : BatcherConfig} {labels : List (Label α)} {s : State α}
    {history : List (Event α)} (hrun : Runs config labels s history) : Executed s history := by
  induction hrun with
  | start =>
    constructor
    case taken_of_replied =>
      simp
    case underway =>
      intro worker w e hw he
      rw [State.idle_of_initial hw] at he
      cases he
    case yielded =>
      simp [State.initial]
    case taken_of_broken =>
      simp
  | step hrun hstep ih =>
    exact ih.step hrun.inOrder hrun.balanced hrun.called_eq (State.move_of_step hstep)

end BulkWrite.Batcher
