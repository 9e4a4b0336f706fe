import BulkWrite.Proofs.Batcher.Lock

/-!
# The pool of workers

A worker comes to its end only when the queue is closed and empty, so a batch finds no worker only
after the transport broke down every one of them (`Staffed.all_crashed`). The dispatcher comes to
its end only when no worker is left that could bring a result.
-/

namespace BulkWrite

/-- Valid sizes are positive. -/
lemma BatcherConfig.sizes_pos {config : BatcherConfig} (h : config.validate = .ok ()) :
    0 < config.batchSize.toNat ∧ 0 < config.poolSize.toNat := by
  have hpos {size : UInt64} (hne : size ≠ 0) : 0 < size.toNat := by
    by_contra hzero
    apply hne
    apply UInt64.toNat_inj.mp
    show size.toNat = 0
    omega
  obtain ⟨hbatch, hpool⟩ := BatchingConfig.validate_eq_ok_iff.mp h
  exact ⟨hpos hbatch, hpos hpool⟩

/-- Two items to a batch and one worker. -/
def BatcherConfig.small : BatcherConfig := { batchSize := 2, poolSize := 1, retry := .noRetries }

namespace Batcher

open History

variable {α : Type}

namespace State

variable {s t : State α} {worker other : Nat} {w next : Worker α}

/-- Where a worker is after the turn of a worker. -/
lemma point_of_setWorker (h : (s.setWorker worker next).workers[other]? = some w) :
    (other = worker ∧ w = next) ∨ (other ≠ worker ∧ s.workers[other]? = some w) := by
  simp only [setWorker, List.getElem?_set] at h
  by_cases heq : worker = other
  · rw [if_pos heq] at h
    split at h
    · exact .inl ⟨heq.symm, (Option.some.inj h).symm⟩
    · cases h
  · rw [if_neg heq] at h
    exact .inr ⟨Ne.symm heq, h⟩

/-- At the start all workers are idle. -/
lemma idle_of_initial {config : BatcherConfig}
    (h : (State.initial (α := α) config).workers[worker]? = some w) : w = .idle := by
  simp only [initial, List.getElem?_replicate] at h
  split at h
  · exact (Option.some.inj h).symm
  · cases h

/-- A worker that takes batches serves. -/
lemma isServed_of_alive (h : s.workers[worker]? = some w) (halive : w.isAlive) : s.isServed :=
  List.any_eq_true.mpr ⟨w, List.mem_of_getElem? h, halive⟩

/-- Where nobody serves, a worker has come to its end or was broken down. -/
lemma gone_of_unserved (hunserved : s.isServed = false) (h : s.workers[worker]? = some w) :
    w = .exited ∨ ∃ failure, w = .crashed failure := by
  have hdead : w.isAlive = false := by
    by_contra halive
    rw [isServed_of_alive h (by simpa using halive)] at hunserved
    cases hunserved
  cases w <;> simp_all [Worker.isAlive]

end State

lemma Runs.config_eq {config : BatcherConfig} {labels : List (Label α)} {s : State α}
    {history : List (Event α)} (hrun : Runs config labels s history) : s.config = config := by
  induction hrun with
  | start => rfl
  | step hrun hstep ih => rw [(State.move_of_step hstep).config_eq, ih]

/-- What becomes of the tasks. -/
structure Staffed (s : State α) (history : List (Event α)) : Prop where
  size : s.workers.length = s.config.poolSize.toNat
  /-- A worker comes to its end when the queue is closed and empty. -/
  drained_of_exited {worker : Nat} :
    s.workers[worker]? = some .exited → s.closed = true ∧ s.queue = []
  /-- A worker that broke down had a batch. -/
  broken_of_crashed {worker : Nat} {failure : String} :
    s.workers[worker]? = some (.crashed failure) → broken history ≠ []
  /-- A batch finds no worker only if all of them broke down. -/
  all_crashed : history.any Event.isUnserved = true →
    ∀ {worker : Nat} {w : Worker α}, s.workers[worker]? = some w → ∃ failure, w = .crashed failure
  /-- The dispatcher comes to its end when there is no result and there will be none. -/
  unserved_of_stopped : s.dispatcher = .exited → s.isServed = false ∧ s.results = []

namespace Staffed

variable {s t u : State α} {call worker : Nat} {label : Label α} {history events : List (Event α)}

lemma initial (config : BatcherConfig) : Staffed (State.initial (α := α) config) [] := by
  constructor
  case size =>
    simp [State.initial]
  case drained_of_exited =>
    intro worker h
    cases State.idle_of_initial h
  case broken_of_crashed =>
    intro worker failure h
    cases State.idle_of_initial h
  case all_crashed =>
    intro h
    cases h
  case unserved_of_stopped =>
    intro h
    cases h

/-- Where a batch waits and nobody serves, every worker broke down. -/
lemma crashed_of_unserved (h : Staffed s history) (hunserved : s.isServed = false)
    (hwaits : s.closed = false ∨ s.queue ≠ []) {w : Worker α}
    (hw : s.workers[worker]? = some w) : ∃ failure, w = .crashed failure := by
  rcases State.gone_of_unserved hunserved hw with rfl | hcrashed
  · obtain ⟨hclosed, hempty⟩ := h.drained_of_exited hw
    rcases hwaits with hopen | hqueue
    · rw [hclosed] at hopen
      cases hopen
    · exact absurd hempty hqueue
  · exact hcrashed

/-- A closed queue does not get a batch. -/
lemma queue_of_closed (hlocked : Locked s) {phase next : Phase α}
    (at_phase : s.calls[call]? = some phase) (turn : CallTurn s call label phase next u events)
    (hclosed : s.closed = true) : u.queue = s.queue := by
  rcases turn.queue_eq with hqueue | ⟨batch, rest, rfl, -⟩
  · exact hqueue
  · rw [hlocked.sender_open at_phase] at hclosed
    cases hclosed

lemma of_call (h : Staffed s history) (hlocked : Locked s) {phase next : Phase α}
    (at_phase : s.calls[call]? = some phase) (turn : CallTurn s call label phase next u events) :
    Staffed (u.setCall call next) (history ++ events) := by
  have hworkers : (u.setCall call next).workers = s.workers := turn.workers_eq
  constructor
  case size =>
    have hconfig : (u.setCall call next).config = s.config := (Move.call at_phase turn).config_eq
    rw [hworkers, hconfig, h.size]
  case drained_of_exited =>
    intro worker hw
    obtain ⟨hclosed, hempty⟩ := h.drained_of_exited (hworkers ▸ hw)
    have hqueue := queue_of_closed hlocked at_phase turn hclosed
    exact ⟨(Move.call at_phase turn).closed_of_closed hclosed, hqueue.trans hempty⟩
  case broken_of_crashed =>
    intro worker failure hw
    have hbroken := h.broken_of_crashed (hworkers ▸ hw)
    simp [hbroken]
  case all_crashed =>
    intro hany worker w hw
    rw [hworkers] at hw
    rw [List.any_append, Bool.or_eq_true] at hany
    rcases hany with hany | hany
    · exact h.all_crashed hany hw
    · -- a refused batch was in the hand of a call, so the queue is still open
      cases turn with
      | refusedPush unserved woken | refusedFlush unserved woken =>
        exact h.crashed_of_unserved unserved (.inl (hlocked.sender_open at_phase)) hw
      | _ => cases hany
  case unserved_of_stopped =>
    intro hstopped
    have hold := h.unserved_of_stopped (turn.dispatcher_eq ▸ hstopped)
    have hserved : (u.setCall call next).isServed = s.isServed := by
      simp only [State.isServed, hworkers]
    have hresults : (u.setCall call next).results = s.results := turn.results_eq
    rwa [hserved, hresults]

lemma of_worker (h : Staffed s history) {w next : Worker α}
    (at_point : s.workers[worker]? = some w) (turn : WorkerTurn s worker label w next u events) :
    Staffed (u.setWorker worker next) (history ++ events) := by
  have hworkers : (u.setWorker worker next).workers = s.workers.set worker next := by
    simp only [State.setWorker, turn.workers_eq]
  -- a worker that has a turn serves and did not break down
  have halive : w.isAlive := by cases turn <;> rfl
  have hcrashed : ¬∃ failure, w = .crashed failure := by
    rintro ⟨failure, rfl⟩
    cases halive
  constructor
  case size =>
    have hconfig : (u.setWorker worker next).config = s.config :=
      (Move.worker at_point turn).config_eq
    rw [hworkers, hconfig, List.length_set, h.size]
  case drained_of_exited =>
    intro other hother
    rcases State.point_of_setWorker hother with ⟨rfl, rfl⟩ | ⟨-, hold⟩
    · cases turn with
      | exited empty closed => exact ⟨closed, empty⟩
    · have hdrained := h.drained_of_exited (turn.workers_eq ▸ hold)
      cases turn with
      | taken head => rw [hdrained.2] at head; cases head
      | brokenLast unserved => exact ⟨hdrained.1, rfl⟩
      | _ => exact hdrained
  case broken_of_crashed =>
    intro other failure hother
    rcases State.point_of_setWorker hother with ⟨rfl, rfl⟩ | ⟨-, hold⟩
    · cases turn <;> simp
    · have hbroken := h.broken_of_crashed (turn.workers_eq ▸ hold)
      simp [hbroken]
  case all_crashed =>
    intro hany other x hother
    rw [List.any_append, Bool.or_eq_true] at hany
    rcases hany with hany | hany
    · exact absurd (h.all_crashed hany at_point) hcrashed
    · cases turn with
      | brokenLast unserved =>
        rcases State.point_of_setWorker hother with ⟨rfl, rfl⟩ | ⟨-, hold⟩
        · exact ⟨_, rfl⟩
        · -- a stranded batch was in the queue, so no other worker had come to its end
          have hqueue : s.queue ≠ [] := by
            intro hempty
            simp [hempty, Event.isUnserved] at hany
          rcases State.gone_of_unserved unserved hother with rfl | hgone
          · exact absurd (h.drained_of_exited hold).2 hqueue
          · exact hgone
      | _ => simp [Event.isUnserved] at hany
  case unserved_of_stopped =>
    -- a worker that has a turn serves, so the dispatcher cannot have stopped
    intro hstopped
    have hold : s.dispatcher = .exited := by
      cases turn <;> exact hstopped
    have hserved := State.isServed_of_alive at_point halive
    rw [(h.unserved_of_stopped hold).1] at hserved
    cases hserved

lemma of_dispatcher (h : Staffed s history) (turn : DispatcherTurn s label t events) :
    Staffed t (history ++ events) := by
  have hbroken : broken (history ++ events) = broken history := by
    cases turn <;> simp
  have hany : (history ++ events).any Event.isUnserved = history.any Event.isUnserved := by
    cases turn <;> simp [Event.isUnserved]
  constructor
  case size =>
    cases turn <;> exact h.size
  case drained_of_exited =>
    cases turn <;> exact h.drained_of_exited
  case broken_of_crashed =>
    rw [hbroken]
    cases turn <;> exact h.broken_of_crashed
  case all_crashed =>
    rw [hany]
    cases turn <;> exact h.all_crashed
  case unserved_of_stopped =>
    intro hstopped
    cases turn with
    | stopped idle empty unserved => exact ⟨unserved, empty⟩
    | received idle head => cases hstopped
    | finished calling next_eq => rcases next_eq with rfl | rfl <;> cases hstopped
    | woken waking => cases hstopped

lemma step (h : Staffed s history) (hlocked : Locked s) (move : Move s label t events) :
    Staffed t (history ++ events) := by
  cases move with
  | begun request =>
    refine ⟨h.size, h.drained_of_exited, ?_, ?_, h.unserved_of_stopped⟩
    · intro worker failure hw
      have hbroken := h.broken_of_crashed hw
      simp [hbroken]
    · intro hany
      rw [List.any_append, Bool.or_eq_true] at hany
      rcases hany with hany | hany
      · exact h.all_crashed hany
      · cases hany
  | call at_phase turn => exact h.of_call hlocked at_phase turn
  | worker at_point turn => exact h.of_worker at_point turn
  | dispatcher turn => exact h.of_dispatcher turn

end Staffed

/-- Where a worker did not break down, no batch was without a worker. -/
lemma Staffed.all_served {s : State α} {history : List (Event α)} (h : Staffed s history)
    {worker : Nat} {w : Worker α} (hw : s.workers[worker]? = some w)
    (hsound : ∀ failure, w ≠ .crashed failure) : history.any Event.isUnserved = false := by
  by_contra hany
  obtain ⟨failure, hcrashed⟩ := h.all_crashed (by simpa using hany) hw
  exact hsound failure hcrashed

/-- The tasks of every run. -/
theorem Runs.staffed {config : BatcherConfig} {labels : List (Label α)} {s : State α}
    {history : List (Event α)} (hrun : Runs config labels s history) : Staffed s history := by
  induction hrun with
  | start => exact .initial config
  | step hrun hstep ih => exact ih.step hrun.locked (State.move_of_step hstep)

/-- In every run there is room in the queue for a batch, if it is empty. -/
lemma Runs.poolSize_pos {config : BatcherConfig} (hvalid : config.validate = .ok ())
    {labels : List (Label α)} {s : State α} {history : List (Event α)}
    (hrun : Runs config labels s history) : 0 < s.config.poolSize.toNat := by
  rw [hrun.config_eq]
  exact (BatcherConfig.sizes_pos hvalid).2

/-- In every run there is a worker, alive or not. -/
lemma Runs.exists_worker {config : BatcherConfig} (hvalid : config.validate = .ok ())
    {labels : List (Label α)} {s : State α} {history : List (Event α)}
    (hrun : Runs config labels s history) : ∃ w, s.workers[0]? = some w := by
  have hpool : 0 < s.workers.length := by
    rw [hrun.staffed.size]
    exact hrun.poolSize_pos hvalid
  exact ⟨s.workers[0], List.getElem?_eq_getElem hpool⟩

/-- Where no batch broke a worker down, every batch found a worker. -/
lemma Runs.all_served {config : BatcherConfig} (hvalid : config.validate = .ok ())
    {labels : List (Label α)} {s : State α} {history : List (Event α)}
    (hrun : Runs config labels s history) (hbroken : broken history = []) :
    history.any Event.isUnserved = false := by
  obtain ⟨w, hworker⟩ := hrun.exists_worker hvalid
  apply hrun.staffed.all_served hworker
  rintro failure rfl
  exact hrun.staffed.broken_of_crashed hworker hbroken

end Batcher

end BulkWrite
