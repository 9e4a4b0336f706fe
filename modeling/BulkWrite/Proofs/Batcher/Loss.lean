import BulkWrite.Proofs.Batcher.Quiet

/-!
# What a lost batch does to the flushes

A batch that is lost stays in flight. A flush is over only at a moment at which nothing is in flight,
so none is over after that (`Runs.not_flushed_of_lost`): a flush that was not over in time waits for
good, and a shutdown does not come to close the queue. Main statement, for batches that break a
worker down: the calls that return are just those that are no flushes and those whose flush was over
before; and the one shutdown among these reports that a task failed (`Runs.flushing_of_broken`). So
there are runs in which a flush never returns (`not_all_flushed`).
-/

namespace BulkWrite.Batcher

open History

variable {α : Type} {config : BatcherConfig} {labels : List (Label α)} {s t : State α}
  {history events before after : List (Event α)} {call : Nat} {outcome : CallOutcome}

/-! ## In flight for good -/

/-- Once a batch is lost, something is in flight. -/
lemma Runs.inFlight_pos_of_lost (hrun : Runs config labels s history) {event : Event α}
    (hevent : event ∈ history) (hloses : event.numbersLost ≠ []) : 0 < s.inFlight := by
  have hlost : lost history ≠ [] :=
    fun hnil => hloses (List.flatMap_eq_nil_iff.mp hnil event hevent)
  have hpos := List.length_pos_of_ne_nil hlost
  rw [hrun.balanced.counted]
  omega

/-- Once a batch is lost, no flush is over any more. -/
theorem Runs.not_flushed_of_lost (hrun : Runs config labels s history) {event : Event α}
    (hhistory : history = before ++ event :: after) (hloses : event.numbersLost ≠ []) :
    .flushed call outcome ∉ after := by
  intro hflushed
  obtain ⟨more, later, rfl⟩ := List.append_of_mem hflushed
  have hsplit : history = (before ++ event :: more) ++ .flushed call outcome :: later := by
    rw [hhistory, List.append_assoc, List.cons_append]
  obtain ⟨labels, u, past, label, v, first, rest, hpast, hstep, hearlier⟩ :=
    hrun.exists_step hsplit
  obtain ⟨hidle, rfl⟩ := (State.move_of_step hstep).idle_of_flushed
  -- when the flush looked, the batch was lost already
  have hmem : event ∈ past := by
    rw [List.append_nil] at hearlier
    rw [← hearlier]
    simp
  have hpos := hpast.inFlight_pos_of_lost hmem hloses
  omega

/-! ## Calls with a flush before them -/

/-- A call at this point has a flush before it, its own or that of a shutdown. -/
def Phase.isFlushing : Phase α → Bool
  | .queued (.flush _) | .sending _ (.flush _) | .draining _ _ _ _ => true
  | _ => false

@[simp]
lemma isFlushing_wakeCall (phase : Phase α) :
    (State.wakeCall phase).isFlushing = phase.isFlushing := by
  cases phase <;> rfl

/-- A call comes past its flush when that is over, or by being dropped. -/
lemma CallTurn.isFlushing {u : State α} {label : Label α} {phase next : Phase α}
    (turn : CallTurn s call label phase next u events) :
    (next.isFlushing = phase.isFlushing ∧ ∀ outcome, .flushed call outcome ∉ events) ∨
      (phase.isFlushing = true ∧ next.isFlushing = false ∧
        (next = .dropped ∨ ∃ outcome, .flushed call outcome ∈ events)) := by
  cases turn with
  | pushed pushing short => cases pushing <;> exact .inl ⟨rfl, by simp⟩
  | filled pushing full => cases pushing <;> exact .inl ⟨rfl, by simp⟩
  | drained idle | flushed idle last => exact .inr ⟨rfl, rfl, .inr ⟨_, List.mem_cons_self⟩⟩
  | @leftList task =>
    cases task with
    | flush closing => exact .inr ⟨rfl, rfl, .inl rfl⟩
    | enqueue | close => exact .inl ⟨rfl, by simp⟩
  | @abandoned batch rest =>
    cases rest with
    | flush closing => exact .inr ⟨rfl, rfl, .inl rfl⟩
    | enqueue items => exact .inl ⟨rfl, by simp⟩
  | leftDrain => exact .inr ⟨rfl, rfl, .inl rfl⟩
  | _ => exact .inl ⟨rfl, by simp⟩

/-- What is known of a flush. -/
structure Flushes (s : State α) (history : List (Event α)) : Prop where
  /-- It is not over as long as it is before its call. -/
  not_flushed {call : Nat} {phase : Phase α} {outcome : CallOutcome} :
    s.calls[call]? = some phase → phase.isFlushing = true → .flushed call outcome ∉ history
  /-- It is over once its call is past it. -/
  exists_flushed {call : Nat} {phase : Phase α} {closing : Bool} :
    s.calls[call]? = some phase → .began call (.ofFlush closing) ∈ history →
      phase.isFlushing = false → phase = .dropped ∨ ∃ outcome, .flushed call outcome ∈ history

namespace Flushes

lemma initial (config : BatcherConfig) : Flushes (State.initial (α := α) config) [] := by
  constructor <;> intros <;> simp_all [State.initial]

lemma step (h : Flushes s history) (hasked : Asked s history) {label : Label α}
    (move : Move s label t events) : Flushes t (history ++ events) := by
  constructor
  case not_flushed =>
    intro call phase outcome hcall hflushing hover
    rw [List.mem_append] at hover
    cases move.phaseChange hcall with
    | begun request new events_eq phase_eq =>
      subst new events_eq
      rcases hover with hover | hover
      · exact hasked.caller_ne _ hover rfl
      · simp at hover
    | turned at_phase turn state_eq =>
      rcases turn.isFlushing with ⟨hsame, hnone⟩ | ⟨-, hpast, -⟩
      · rcases hover with hover | hover
        · exact h.not_flushed at_phase (hsame ▸ hflushing) hover
        · exact hnone _ hover
      · -- the turn in which a flush ends takes its call past it
        rw [hpast] at hflushing
        cases hflushing
    | stayed at_phase same others =>
      rcases hover with hover | hover
      · rw [State.eq_of_stayed Phase.isFlushing (isFlushing_wakeCall _) same] at hflushing
        exact h.not_flushed at_phase hflushing hover
      · exact others _ hover rfl
  case exists_flushed =>
    intro call phase closing hcall hbegan hpast
    rcases List.mem_append.mp hbegan with hbegan | hbegan
    · cases move.phaseChange hcall with
      | begun request new events_eq phase_eq =>
        have hlt := hasked.caller_lt hbegan rfl
        omega
      | turned at_phase turn state_eq =>
        rcases turn.isFlushing with ⟨hsame, -⟩ | ⟨-, -, hdropped | ⟨outcome, hover⟩⟩
        · rcases h.exists_flushed at_phase hbegan (hsame ▸ hpast) with hdropped | ⟨outcome, hover⟩
          · exact absurd hdropped turn.unfinished.1
          · exact .inr ⟨outcome, List.mem_append_left _ hover⟩
        · exact .inl hdropped
        · exact .inr ⟨outcome, List.mem_append_right _ hover⟩
      | stayed at_phase same others =>
        rw [State.eq_of_stayed Phase.isFlushing (isFlushing_wakeCall _) same] at hpast
        rcases h.exists_flushed at_phase hbegan hpast with hdropped | ⟨outcome, hover⟩
        · exact .inl ((State.iff_of_stayed (· = .dropped) State.wakeCall_eq_dropped same).mpr hdropped)
        · exact .inr ⟨outcome, List.mem_append_left _ hover⟩
    · -- a call that was just begun has its flush before it
      rw [move.phase_of_began hbegan hcall] at hpast
      cases closing <;> cases hpast

end Flushes

/-- The flushes of every run. -/
theorem Runs.flushes (hrun : Runs config labels s history) : Flushes s history := by
  induction hrun with
  | start => exact .initial config
  | step hrun hstep ih => exact ih.step hrun.asked (State.move_of_step hstep)

/-- A flush that was not over when a batch was lost is never over, and its call does not get past
it. -/
lemma Runs.isFlushing_of_lost (hrun : Runs config labels s history)
    (hkept : ∀ label ∈ labels, label.isCancel = false) {event : Event α}
    (hhistory : history = before ++ event :: after) (hloses : event.numbersLost ≠ [])
    {closing : Bool} (hbegan : .began call (.ofFlush closing) ∈ history)
    (hbefore : ∀ outcome, .flushed call outcome ∉ before) :
    (∀ outcome, .flushed call outcome ∉ history) ∧
      ∃ phase, s.calls[call]? = some phase ∧ phase.isFlushing = true := by
  have hnone (outcome : CallOutcome) : .flushed call outcome ∉ history := by
    rw [hhistory, List.mem_append, List.mem_cons]
    rintro (hover | rfl | hover)
    · exact hbefore outcome hover
    · exact hloses rfl
    · exact hrun.not_flushed_of_lost hhistory hloses hover
  have hcall := List.getElem?_eq_getElem (hrun.asked.caller_lt hbegan rfl)
  refine ⟨hnone, _, hcall, ?_⟩
  by_contra hpast
  rcases hrun.flushes.exists_flushed hcall hbegan (by simpa using hpast) with
    hdropped | ⟨outcome, hover⟩
  · exact hrun.phase_ne_dropped hkept hcall hdropped
  · exact hnone outcome hover

/-- Where the batcher comes to rest after a batch was lost, the calls that have returned are those
that are no flushes and those whose flush was over before. -/
lemma Runs.returned_iff_of_lost (hvalid : config.validate = .ok ())
    (hrun : Runs config labels s history) (hkept : ∀ label ∈ labels, label.isCancel = false)
    {event : Event α} (hhistory : history = before ++ event :: after)
    (hloses : event.numbersLost ≠ []) (hquiet : s.IsQuiet) {request : Request α}
    (hbegan : .began call request ∈ history) :
    (∃ outcome, .returned call outcome ∈ history) ↔
      ∀ closing, request = .ofFlush closing → ∃ outcome, .flushed call outcome ∈ before := by
  constructor
  · rintro ⟨outcome, hreturned⟩ closing rfl
    by_contra hnone
    obtain ⟨-, phase, hcall, hflushing⟩ := hrun.isFlushing_of_lost hkept hhistory hloses hbegan
      fun outcome hover => hnone ⟨outcome, hover⟩
    rw [hrun.asked.phase_of_returned hreturned] at hcall
    obtain rfl := Option.some.inj hcall
    cases hflushing
  · intro hbefore
    have hcall := List.getElem?_eq_getElem (hrun.asked.caller_lt hbegan rfl)
    rcases hrun.phase_of_quiet hvalid hquiet hcall with
      ⟨outcome, hphase⟩ | hdropped | ⟨⟨outcome, closing, hphase⟩, -⟩
    · exact ⟨outcome, hrun.asked.returned_of_phase (hphase ▸ hcall)⟩
    · exact absurd hdropped (hrun.phase_ne_dropped hkept hcall)
    · -- a flush that waits is not over, so it was not over before either
      rw [hphase] at hcall
      obtain ⟨rfl, -⟩ := hrun.serves hbegan hcall
      obtain ⟨outcome', hover⟩ := hbefore closing rfl
      have hmem : .flushed call outcome' ∈ history := by simp [hhistory, hover]
      exact absurd hmem (hrun.flushes.not_flushed hcall rfl)

/-! ## Shutdowns past their flush -/

/-- A call at this point may have a flush behind it that succeeded. -/
def Phase.MayHaveFlushed : Phase α → Prop
  | .queued .close | .collecting | .joining _ _ | .dropped => True
  | .returned outcome => ∃ failures, outcome = State.joined failures
  | _ => False

@[simp]
lemma mayHaveFlushed_wakeCall {phase : Phase α} :
    (State.wakeCall phase).MayHaveFlushed ↔ phase.MayHaveFlushed := by
  cases phase <;> rfl

/-- A call that has flushed goes on to close the queue and to wait for the tasks. -/
lemma CallTurn.mayHaveFlushed {u : State α} {label : Label α} {phase next : Phase α}
    (turn : CallTurn s call label phase next u events)
    (h : phase.MayHaveFlushed ∨ .flushed call (.ok ()) ∈ events) : next.MayHaveFlushed := by
  cases turn with
  | pushed pushing short => exact ⟨[], rfl⟩
  | filled pushing full => cases pushing <;> simp [Phase.MayHaveFlushed] at h
  | @flushed outcome closing woken idle last =>
    rcases h with h | h
    · exact h.elim
    · obtain rfl : .ok () = outcome := by simpa using h
      exact ⟨[], rfl⟩
  | @joined failures => exact ⟨failures, rfl⟩
  | drained | closed | closedAgain | collected | collectedAgain | awaited | expired | leftList
  | abandoned | leftDrain | leftJoin => trivial
  | _ => simp [Phase.MayHaveFlushed] at h

/-- A call whose flush succeeded returns with what became of the tasks. -/
lemma Runs.joined_of_flushed (hrun : Runs config labels s history)
    (hover : .flushed call (.ok ()) ∈ history) {phase : Phase α}
    (hcall : s.calls[call]? = some phase) : phase.MayHaveFlushed := by
  induction hrun generalizing phase with
  | start => cases hover
  | @step labels s t label history events hrun hstep ih =>
    rw [List.mem_append] at hover
    cases (State.move_of_step hstep).phaseChange hcall with
    | begun request new events_eq phase_eq =>
      subst new events_eq
      rcases hover with hover | hover
      · exact absurd rfl (hrun.asked.caller_ne _ hover)
      · simp at hover
    | turned at_phase turn state_eq =>
      exact turn.mayHaveFlushed (hover.imp_left fun hover => ih hover at_phase)
    | stayed at_phase same others =>
      rcases hover with hover | hover
      · rw [State.iff_of_stayed Phase.MayHaveFlushed mayHaveFlushed_wakeCall same]
        exact ih hover at_phase
      · exact absurd rfl (others _ hover)

/-- A worker that was broken down has no turn any more. -/
lemma Runs.crashed_of_broken (hrun : Runs config labels s history) {worker : Nat} {batch : Batch α}
    (hbroken : .broken worker batch ∈ history) :
    ∃ failure, s.workers[worker]? = some (.crashed failure) := by
  induction hrun with
  | start => cases hbroken
  | @step labels s t label history events hrun hstep ih =>
    rw [List.mem_append] at hbroken
    cases State.move_of_step hstep with
    | begun request => exact ih (hbroken.resolve_right (by simp))
    | @call call label phase next u events at_phase turn =>
      show ∃ failure, u.workers[worker]? = some (.crashed failure)
      rw [turn.workers_eq]
      refine ih (hbroken.resolve_right ?_)
      cases turn <;> simp
    | @worker other label w next u events at_point turn =>
      rw [State.setWorker, turn.workers_eq]
      rcases hbroken with hbroken | hbroken
      · obtain ⟨failure, hcrashed⟩ := ih hbroken
        -- a worker that broke down has no turn, so another one had this
        have hne : other ≠ worker := by
          rintro rfl
          rw [hcrashed] at at_point
          obtain rfl := Option.some.inj at_point
          cases turn
        exact ⟨failure, by rw [List.getElem?_set_ne hne, hcrashed]⟩
      · -- the turn that breaks a worker down is its own
        have hlt := (List.getElem?_eq_some_iff.mp at_point).1
        cases turn <;> simp at hbroken
        all_goals
          obtain ⟨rfl, -⟩ := hbroken
          exact ⟨_, List.getElem?_set_self hlt⟩
    | dispatcher turn =>
      have hold := ih (hbroken.resolve_right (by cases turn <;> simp))
      cases turn <;> exact hold

/-- Where a worker was broken down, the one shutdown, if its flush succeeded, reports that a task
failed. -/
lemma Runs.internal_of_broken (hrun : Runs config labels s history)
    (honly : ∀ other, .began other .shutdown ∈ history → other = call)
    (hbegan : .began call .shutdown ∈ history) {worker : Nat} {batch : Batch α}
    (hbroken : .broken worker batch ∈ history) (hover : .flushed call (.ok ()) ∈ history)
    (hreturned : .returned call outcome ∈ history) :
    ∃ text, outcome = .error (.internal text) := by
  have hcall := hrun.asked.phase_of_returned hreturned
  obtain ⟨failures, rfl⟩ := hrun.joined_of_flushed hover hcall
  cases failures with
  | nil =>
    -- it would have waited for the worker that was broken down to come to its end
    have hended := hrun.endedBut honly hbegan hcall rfl
    obtain ⟨failure, hcrashed⟩ := hrun.crashed_of_broken hbroken
    cases hended.worker_exited hcrashed
  | cons failure failures => exact ⟨_, rfl⟩

/-! ## A worker breaks down -/

/-- A batch that breaks a worker down stays in flight. A flush that was not over before is never
over. Where the batcher comes to rest, the other calls have returned; the one shutdown, if its flush
succeeded before, with the error that a task failed. -/
theorem Runs.flushing_of_broken (hvalid : config.validate = .ok ())
    (hrun : Runs config labels s history) (hkept : ∀ label ∈ labels, label.isCancel = false)
    {worker : Nat} {batch : Batch α} (hhistory : history = before ++ .broken worker batch :: after) :
    0 < s.inFlight ∧
    (∀ call closing, .began call (.ofFlush closing) ∈ history →
      (∀ outcome, .flushed call outcome ∉ before) →
        (∀ outcome, .flushed call outcome ∉ history) ∧
          ∃ phase, s.calls[call]? = some phase ∧ phase.isFlushing = true) ∧
    (s.IsQuiet → ∀ call request, .began call request ∈ history →
      ((∃ outcome, .returned call outcome ∈ history) ↔
        ∀ closing, request = .ofFlush closing → ∃ outcome, .flushed call outcome ∈ before)) ∧
    (∀ call, (∀ other, .began other .shutdown ∈ history → other = call) →
      .began call .shutdown ∈ history → .flushed call (.ok ()) ∈ before →
        ∀ outcome, .returned call outcome ∈ history →
          ∃ text, outcome = .error (.internal text)) := by
  have hloses : (Event.broken worker batch).numbersLost ≠ [] := by simp
  have hbroken : .broken worker batch ∈ history := by simp [hhistory]
  refine ⟨hrun.inFlight_pos_of_lost hbroken hloses, ?_, ?_, ?_⟩
  · intro call closing hbegan hbefore
    exact hrun.isFlushing_of_lost hkept hhistory hloses hbegan hbefore
  · intro hquiet call request hbegan
    exact hrun.returned_iff_of_lost hvalid hkept hhistory hloses hquiet hbegan
  · intro call honly hbegan hover outcome hreturned
    have hmem : .flushed call (.ok ()) ∈ history := by simp [hhistory, hover]
    exact hrun.internal_of_broken honly hbegan hbroken hmem hreturned

/-! A shutdown whose flush is over before a worker breaks down, and a flush that comes after that. -/

def stuckLabels : List (Label Nat) :=
  [.begin .shutdown, .advance 0, .begin (.enqueue [10]), .advance 0, .advance 1, .advance 1,
    .take 0, .crash 0 "no route", .advance 0, .advance 0, .begin .flush, .advance 2, .advance 2,
    .take 1, .receive, .advance 0, .advance 0, .advance 0, .advance 0]

def stuckBefore : List (Event Nat) :=
  [.began 0 .shutdown, .began 1 (.enqueue [10]), .flushed 0 (.ok ()), .pushed 1 [10],
    .formed 1 ⟨0, [10]⟩, .pushed 1 [], .returned 1 (.ok ()), .taken 0 ⟨0, [10]⟩,
    .submitted 0 ⟨0, [10]⟩]

def stuckAfter : List (Event Nat) :=
  [.closed 0 [], .collected 0, .began 2 .flush, .returned 0 (.error (.internal "no route"))]

/-- Both workers and the dispatcher are gone, and the flush waits. -/
lemma quiet_stuck : ∃ s, Runs pairConfig stuckLabels s
    (stuckBefore ++ .broken 0 ⟨0, [10]⟩ :: stuckAfter) ∧ s.IsQuiet := by
  refine ⟨_, Runs.of_run rfl, fun label hlabel => ?_⟩
  cases label with
  | begin | cancel => cases hlabel
  | advance call | expire call => rcases call with _ | _ | _ | call <;> rfl
  | take worker | reply worker | crash worker | resume worker =>
    rcases worker with _ | _ | worker <;> rfl
  | receive | finish | wake => rfl

lemma kept_stuck : ∀ label ∈ stuckLabels, label.isCancel = false := by
  simp [stuckLabels, Label.isCancel]

theorem flushing_of_broken_stuck :
    ∃ s history, pairConfig.validate = .ok () ∧ Runs pairConfig stuckLabels s history ∧
      (∀ label ∈ stuckLabels, label.isCancel = false) ∧
      history = stuckBefore ++ .broken 0 ⟨0, [10]⟩ :: stuckAfter ∧ s.IsQuiet ∧ 0 < s.inFlight ∧
      (∀ outcome, .returned 2 outcome ∉ history) ∧
      ∃ text, .returned 0 (.error (.internal text)) ∈ history := by
  obtain ⟨s, hrun, hquiet⟩ := quiet_stuck
  obtain ⟨hflight, -, hreturned, hreports⟩ := Runs.flushing_of_broken rfl hrun kept_stuck rfl
  refine ⟨s, _, rfl, hrun, kept_stuck, rfl, hquiet, hflight, ?_, ?_⟩
  · intro outcome hover
    obtain ⟨outcome', hflushed⟩ := (hreturned hquiet 2 .flush (by simp [stuckAfter])).mp
      ⟨outcome, hover⟩ false rfl
    simp [stuckBefore] at hflushed
  · have hmem : .returned 0 (.error (.internal "no route")) ∈
        stuckBefore ++ .broken 0 ⟨0, [10]⟩ :: stuckAfter := by simp [stuckAfter]
    obtain ⟨text, hinternal⟩ := hreports 0 (by simp [stuckBefore, stuckAfter])
      (by simp [stuckBefore]) (by simp [stuckBefore]) _ hmem
    exact ⟨text, hinternal ▸ hmem⟩

/-- Where a worker breaks down, not every flush returns. -/
theorem not_all_flushed :
    ¬∀ (config : BatcherConfig) (labels : List (Label Nat)) (s : State Nat)
      (history : List (Event Nat)), config.validate = .ok () → Runs config labels s history →
        (∀ label ∈ labels, label.isCancel = false) → labels.any Label.isCrash = true →
          s.IsQuiet → ∀ call closing, .began call (.ofFlush closing) ∈ history →
            ∃ outcome, .returned call outcome ∈ history := by
  intro h
  obtain ⟨s, hrun, hquiet⟩ := quiet_stuck
  obtain ⟨outcome, hreturned⟩ := h pairConfig stuckLabels s _ rfl hrun kept_stuck rfl hquiet 2
    false (List.mem_append_right _ (by simp [stuckAfter, Request.ofFlush]))
  simp [stuckBefore, stuckAfter] at hreturned

end BulkWrite.Batcher
