import BulkWrite.Proofs.Batcher.Pending

/-!
# What a shutdown waits for

A shutdown closes the queue, if none did so before (`Closing`), and then takes the handles of all
tasks, if they are still there (`Collecting`). As long as no task failed, those whose handles it does
not hold any more have come to their end. So the shutdown that took the handles leaves no task behind
when it returns without an error (`Runs.endedBut_of_collected`); any other one holds no handles and
waits for no task.
-/

namespace BulkWrite.Batcher

variable {α : Type}

/-! ## Closing -/

/-- A step that closes the queue is one of a call that has the pending list, and does nothing
else. -/
lemma Move.closed_eq {s t : State α} {label : Label α} {events : List (Event α)} {call : Nat}
    {left : List α} (move : Move s label t events) (h : .closed call left ∈ events) :
    s.calls[call]? = some (.queued .close) ∧ s.closed = false ∧ left = s.pending ∧
      events = [.closed call left] ∧ t.closed = true := by
  cases move with
  | begun request => simp at h
  | call at_phase turn =>
    cases turn with
    | closed holds isOpen =>
      obtain ⟨rfl, rfl⟩ : call = _ ∧ left = s.pending := by simpa using h
      exact ⟨at_phase, isOpen, rfl, rfl, rfl⟩
    | _ => simp at h
  | worker at_point turn => cases turn <;> simp at h
  | dispatcher turn => cases turn <;> simp at h

/-- The queue comes to be closed by a call. -/
lemma Move.exists_closed {s t : State α} {label : Label α} {events : List (Event α)}
    (move : Move s label t events) (hopen : s.closed = false) (hclosed : t.closed = true) :
    ∃ call left, .closed call left ∈ events := by
  have hsame (h : t.closed = s.closed) : False := by
    rw [h, hopen] at hclosed
    cases hclosed
  cases move with
  | begun request => exact (hsame rfl).elim
  | call at_phase turn =>
    cases turn with
    | pushed pushing short => cases pushing <;> exact (hsame rfl).elim
    | filled pushing full => cases pushing <;> exact (hsame rfl).elim
    | closed holds isOpen => exact ⟨_, _, List.mem_singleton.mpr rfl⟩
    | closedAgain holds closed => rw [hopen] at closed; cases closed
    | _ => exact (hsame rfl).elim
  | worker at_point turn => cases turn <;> exact (hsame rfl).elim
  | dispatcher turn => cases turn <;> exact (hsame rfl).elim

/-- Who closed the queue. -/
structure Closing (s : State α) (history : List (Event α)) : Prop where
  exists_closed : s.closed = true → ∃ call left, .closed call left ∈ history
  closed_of_mem {call : Nat} {left : List α} : .closed call left ∈ history → s.closed = true
  began_shutdown {call : Nat} {left : List α} :
    .closed call left ∈ history → .began call .shutdown ∈ history
  closed_of_collecting {call : Nat} : s.calls[call]? = some .collecting → s.closed = true

lemma Closing.step {s t : State α} {label : Label α} {history events : List (Event α)}
    (h : Closing s history) (hasked : Asked s history) (move : Move s label t events) :
    Closing t (history ++ events) := by
  constructor
  case exists_closed =>
    intro hclosed
    cases hopen : s.closed with
    | false =>
      obtain ⟨call, left, hmem⟩ := move.exists_closed hopen hclosed
      exact ⟨call, left, List.mem_append_right _ hmem⟩
    | true =>
      obtain ⟨call, left, hmem⟩ := h.exists_closed hopen
      exact ⟨call, left, List.mem_append_left _ hmem⟩
  case closed_of_mem =>
    intro call left hmem
    rcases List.mem_append.mp hmem with hmem | hmem
    · exact move.closed_of_closed (h.closed_of_mem hmem)
    · exact (move.closed_eq hmem).2.2.2.2
  case began_shutdown =>
    intro call left hmem
    rcases List.mem_append.mp hmem with hmem | hmem
    · exact List.mem_append_left _ (h.began_shutdown hmem)
    · obtain ⟨request, hbegan, rfl, -⟩ := hasked.serves (move.closed_eq hmem).1
      exact List.mem_append_left _ hbegan
  case closed_of_collecting =>
    intro call hcall
    cases move.phaseChange hcall with
    | begun request new events_eq phase_eq => cases phase_eq
    | turned at_phase turn state_eq =>
      rw [state_eq]
      cases turn <;> rfl
    | stayed at_phase same others =>
      have hold := (State.iff_of_stayed (· = .collecting) State.wakeCall_eq_collecting same).mp rfl
      exact move.closed_of_closed (h.closed_of_collecting (hold ▸ at_phase))

/-- In every run the queue is closed by a shutdown. -/
theorem Runs.closing {config : BatcherConfig} {labels : List (Label α)} {s : State α}
    {history : List (Event α)} (hrun : Runs config labels s history) : Closing s history := by
  induction hrun with
  | start => constructor <;> simp [State.initial]
  | step hrun hstep ih => exact ih.step hrun.asked (State.move_of_step hstep)

/-! ## Collecting -/

/-- A call at a point may have taken the handles of the tasks. -/
def Phase.MayHaveCollected : Phase α → Prop
  | .joining _ _ | .returned _ | .dropped => True
  | .queued _ | .sending _ _ | .draining _ _ _ _ | .collecting => False

@[simp]
lemma mayHaveCollected_wakeCall {phase : Phase α} :
    (State.wakeCall phase).MayHaveCollected ↔ phase.MayHaveCollected := by
  cases phase <;> rfl

/-- A call that has taken the handles does not go back. -/
lemma CallTurn.mayHaveCollected {s u : State α} {call : Nat} {label : Label α}
    {phase next : Phase α} {events : List (Event α)}
    (turn : CallTurn s call label phase next u events) (h : phase.MayHaveCollected) :
    next.MayHaveCollected := by
  cases turn with
  | pushed pushing short => trivial
  | filled pushing full => cases pushing <;> exact h.elim
  | joined | awaited | expired | leftJoin => trivial
  | _ => exact h.elim

/-- A step that takes the handles is one of a call that has closed the queue, or found it closed,
and does nothing else. -/
lemma Move.collected_eq {s t : State α} {label : Label α} {events : List (Event α)} {call : Nat}
    (move : Move s label t events) (h : .collected call ∈ events) :
    s.calls[call]? = some .collecting ∧ s.handlesTaken = false ∧ events = [.collected call] ∧
      t.handlesTaken = true := by
  cases move with
  | begun request => simp at h
  | call at_phase turn =>
    cases turn with
    | collected untaken =>
      obtain rfl : call = _ := by simpa using h
      exact ⟨at_phase, untaken, rfl, rfl⟩
    | _ => simp at h
  | worker at_point turn => cases turn <;> simp at h
  | dispatcher turn => cases turn <;> simp at h

/-- Handles that were taken do not come back. Whoever takes them says so. -/
lemma Move.handlesTaken_cases {s t : State α} {label : Label α} {events : List (Event α)}
    (move : Move s label t events) :
    t.handlesTaken = s.handlesTaken ∨ ∃ call, events = [.collected call] := by
  cases move with
  | begun request => exact .inl rfl
  | call at_phase turn =>
    cases turn with
    | pushed pushing short => cases pushing <;> exact .inl rfl
    | filled pushing full => cases pushing <;> exact .inl rfl
    | collected untaken => exact .inr ⟨_, rfl⟩
    | _ => exact .inl rfl
  | worker at_point turn => cases turn <;> exact .inl rfl
  | dispatcher turn => cases turn <;> exact .inl rfl

lemma Move.handlesTaken {s t : State α} {label : Label α} {events : List (Event α)}
    (move : Move s label t events) (h : s.handlesTaken = true) : t.handlesTaken = true := by
  rcases move.handlesTaken_cases with hsame | ⟨call, rfl⟩
  · exact hsame.trans h
  · exact (move.collected_eq List.mem_cons_self).2.2.2

/-- Who took the handles of the tasks. -/
structure Collecting (s : State α) (history : List (Event α)) : Prop where
  closed : s.handlesTaken = true → s.closed = true
  exists_collected : s.handlesTaken = true → ∃ call, .collected call ∈ history
  handlesTaken {call : Nat} : .collected call ∈ history → s.handlesTaken = true
  began_shutdown {call : Nat} : .collected call ∈ history → .began call .shutdown ∈ history
  mayHaveCollected {call : Nat} {phase : Phase α} :
    .collected call ∈ history → s.calls[call]? = some phase → phase.MayHaveCollected

lemma Collecting.step {s t : State α} {label : Label α} {history events : List (Event α)}
    (h : Collecting s history) (hclosing : Closing s history) (hasked : Asked s history)
    (move : Move s label t events) : Collecting t (history ++ events) := by
  constructor
  case closed =>
    intro htaken
    -- who takes the handles has closed the queue, or found it closed
    apply move.closed_of_closed
    rcases move.handlesTaken_cases with hsame | ⟨call, rfl⟩
    · exact h.closed (hsame ▸ htaken)
    · exact hclosing.closed_of_collecting (move.collected_eq List.mem_cons_self).1
  case exists_collected =>
    intro htaken
    rcases move.handlesTaken_cases with hsame | ⟨call, rfl⟩
    · obtain ⟨call, hmem⟩ := h.exists_collected (hsame ▸ htaken)
      exact ⟨call, List.mem_append_left _ hmem⟩
    · exact ⟨call, by simp⟩
  case handlesTaken =>
    intro call hmem
    rcases List.mem_append.mp hmem with hmem | hmem
    · exact move.handlesTaken (h.handlesTaken hmem)
    · exact (move.collected_eq hmem).2.2.2
  case began_shutdown =>
    intro call hmem
    rcases List.mem_append.mp hmem with hmem | hmem
    · exact List.mem_append_left _ (h.began_shutdown hmem)
    · obtain ⟨request, hbegan, rfl, -⟩ := hasked.serves (move.collected_eq hmem).1
      exact List.mem_append_left _ hbegan
  case mayHaveCollected =>
    intro call phase hmem hcall
    rcases List.mem_append.mp hmem with hmem | hmem
    · cases move.phaseChange hcall with
      | begun request new events_eq phase_eq =>
        have hlt := hasked.caller_lt hmem rfl
        omega
      | turned at_phase turn state_eq =>
        exact turn.mayHaveCollected (h.mayHaveCollected hmem at_phase)
      | stayed at_phase same others =>
        rw [State.iff_of_stayed Phase.MayHaveCollected mayHaveCollected_wakeCall same]
        exact h.mayHaveCollected hmem at_phase
    · cases move.phaseChange hcall with
      | begun request new events_eq phase_eq => simp [events_eq] at hmem
      | turned at_phase turn state_eq =>
        cases turn with
        | collected untaken => trivial
        | _ => simp at hmem
      | stayed at_phase same others => exact absurd rfl (others _ hmem)

/-- In every run the handles are taken by a shutdown, of a closed batcher. -/
theorem Runs.collecting {config : BatcherConfig} {labels : List (Label α)} {s : State α}
    {history : List (Event α)} (hrun : Runs config labels s history) : Collecting s history := by
  induction hrun with
  | start => constructor <;> simp [State.initial]
  | step hrun hstep ih => exact ih.step hrun.closing hrun.asked (State.move_of_step hstep)

/-! ## Waiting for the tasks -/

lemma ended_worker {s : State α} {worker : Nat} :
    s.ended? (.worker worker) = some none ↔ s.workers[worker]? = some .exited := by
  simp only [State.ended?]
  split <;> simp_all

lemma ended_dispatcher {s : State α} :
    s.ended? .dispatcher = some none ↔ s.dispatcher = .exited := by
  simp only [State.ended?]
  split <;> simp_all

/-- A task that has come to its end stays there. -/
lemma Move.ended {s t : State α} {label : Label α} {events : List (Event α)}
    (move : Move s label t events) {handle : Handle} (h : s.ended? handle = some none) :
    t.ended? handle = some none := by
  cases handle with
  | worker worker =>
    rw [ended_worker] at h ⊢
    cases move with
    | begun request => exact h
    | call at_phase turn => exact turn.workers_eq ▸ h
    | @worker other label w next u events at_point turn =>
      have hne : other ≠ worker := by
        rintro rfl
        rw [h] at at_point
        obtain rfl := Option.some.inj at_point
        cases turn
      rwa [State.setWorker, List.getElem?_set_ne hne, turn.workers_eq]
    | dispatcher turn => cases turn <;> exact h
  | dispatcher =>
    rw [ended_dispatcher] at h ⊢
    cases move with
    | begun request => exact h
    | call at_phase turn => exact turn.dispatcher_eq.trans h
    | worker at_point turn => cases turn <;> exact h
    | dispatcher turn =>
      cases turn with
      | received idle | stopped idle => simp [h] at idle
      | finished calling => simp [h] at calling
      | woken waking => simp [h] at waking

/-- No task is started and none goes away. -/
lemma Move.handles_eq {s t : State α} {label : Label α} {events : List (Event α)}
    (move : Move s label t events) : t.handles = s.handles := by
  have hlength : t.workers.length = s.workers.length := by
    cases move with
    | begun request => rfl
    | call at_phase turn => exact congrArg List.length turn.workers_eq
    | worker at_point turn => simp [State.setWorker, turn.workers_eq]
    | dispatcher turn => cases turn <;> rfl
  rw [State.handles, State.handles, hlength]

/-- All tasks but the given ones have come to their end. -/
def State.EndedBut (s : State α) (handles : List Handle) : Prop :=
  ∀ handle ∈ s.handles, handle ∈ handles ∨ s.ended? handle = some none

lemma Move.endedBut {s t : State α} {label : Label α} {events : List (Event α)}
    (move : Move s label t events) {handles : List Handle} (h : s.EndedBut handles) :
    t.EndedBut handles := by
  intro handle hmem
  rw [move.handles_eq] at hmem
  exact (h handle hmem).imp_right move.ended

/-- The tasks that a shutdown has yet to wait for, if no task failed so far. -/
def Phase.awaits? : Phase α → Option (List Handle)
  | .joining handles [] => some handles
  | .returned (.ok _) => some []
  | _ => none

@[simp]
lemma awaits_wakeCall {phase : Phase α} : (State.wakeCall phase).awaits? = phase.awaits? := by
  cases phase <;> rfl

lemma joined_eq_ok {failures : List String} {done : Unit}
    (h : State.joined failures = .ok done) : failures = [] := by
  cases failures with
  | nil => rfl
  | cons failure failures => cases h

/-- In its turn a shutdown takes the handles that are left, or lets go of the handle of a task that
has come to its end. -/
lemma CallTurn.awaits {s u : State α} {call : Nat} {label : Label α} {phase next : Phase α}
    {events : List (Event α)} {pushed : List α} {handles : List Handle}
    (turn : CallTurn s call label phase next u events) (hserves : phase.Serves .shutdown pushed)
    (hawaits : next.awaits? = some handles) :
    (phase = .collecting ∧ u.handlesTaken = true ∧
      (s.handlesTaken = false → handles = s.handles)) ∨
    ∃ held, phase.awaits? = some held ∧
      ∀ handle ∈ held, handle ∈ handles ∨ s.ended? handle = some none := by
  cases turn with
  | shutOut holds closed => cases hserves.1
  | pushed pushing short => cases pushing <;> simp [Phase.Serves] at hserves
  | refusedPush unserved woken => cases hserves
  | collected untaken => exact .inl ⟨rfl, rfl, fun _ => (Option.some.inj hawaits).symm⟩
  | collectedAgain handlesTaken => exact .inl ⟨rfl, handlesTaken, by simp [handlesTaken]⟩
  | @flushed outcome closing woken idle last =>
    -- a shutdown returns from its flush only with an error
    cases closing with
    | true =>
      cases outcome with
      | ok done => exact absurd rfl (last rfl)
      | error error => cases hawaits
    | false => cases hserves.1
  | @joined failures =>
    cases hjoined : State.joined failures with
    | ok done =>
      obtain rfl := joined_eq_ok hjoined
      exact .inr ⟨[], rfl, by simp⟩
    | error error =>
      rw [hjoined] at hawaits
      cases hawaits
  | @awaited handle rest failures failure ended =>
    cases failures with
    | cons text failures => cases hawaits
    | nil =>
      cases failure with
      | some text => cases hawaits
      | none =>
        obtain rfl := Option.some.inj hawaits
        refine .inr ⟨_, rfl, fun other hmem => ?_⟩
        rcases List.mem_cons.mp hmem with rfl | hmem
        · exact .inr ended
        · exact .inl hmem
  | @expired handle rest failures => cases failures <;> cases hawaits
  | _ => cases hawaits

section

variable {config : BatcherConfig} {labels : List (Label α)} {s : State α}
  {history : List (Event α)} {call : Nat} {phase : Phase α} {handles : List Handle}

/-- A shutdown waits for tasks, or returns without an error, when the handles have been taken. -/
lemma Runs.handlesTaken_of_awaits (hrun : Runs config labels s history)
    (hbegan : .began call .shutdown ∈ history) (hcall : s.calls[call]? = some phase)
    (hawaits : phase.awaits? = some handles) : s.handlesTaken = true := by
  induction hrun generalizing phase handles with
  | start => simp at hbegan
  | @step labels s t label history events hrun hstep ih =>
    have move := State.move_of_step hstep
    rcases List.mem_append.mp hbegan with hbegan | hbegan
    · cases move.phaseChange hcall with
      | begun request new events_eq phase_eq =>
        rw [phase_eq] at hawaits
        cases hawaits
      | turned at_phase turn state_eq =>
        rcases turn.awaits (hrun.serves hbegan at_phase) hawaits with
          ⟨-, htaken, -⟩ | ⟨held, hheld, -⟩
        · rw [state_eq]
          exact htaken
        · exact move.handlesTaken (ih hbegan at_phase hheld)
      | stayed at_phase same others =>
        rw [State.eq_of_stayed Phase.awaits? awaits_wakeCall same] at hawaits
        exact move.handlesTaken (ih hbegan at_phase hawaits)
    · rw [move.phase_of_began hbegan hcall] at hawaits
      cases hawaits

/-- The tasks for which the shutdown that took the handles need not wait any more have come to their
end. -/
theorem Runs.endedBut_of_collected (hrun : Runs config labels s history)
    (hcollected : .collected call ∈ history) (hcall : s.calls[call]? = some phase)
    (hawaits : phase.awaits? = some handles) : s.EndedBut handles := by
  induction hrun generalizing phase handles with
  | start => simp at hcollected
  | @step labels s t label history events hrun hstep ih =>
    have move := State.move_of_step hstep
    cases move.phaseChange hcall with
    | begun request new events_eq phase_eq =>
      rw [phase_eq] at hawaits
      cases hawaits
    | turned at_phase turn state_eq =>
      rcases List.mem_append.mp hcollected with hcollected | hcollected
      · have hserves := hrun.serves (hrun.collecting.began_shutdown hcollected) at_phase
        rcases turn.awaits hserves hawaits with ⟨rfl, -⟩ | ⟨held, hheld, hkept⟩
        · exact (hrun.collecting.mayHaveCollected hcollected at_phase).elim
        · intro handle hmem
          rcases move.endedBut (ih hcollected at_phase hheld) handle hmem with hmem | hended
          · exact (hkept handle hmem).imp_right move.ended
          · exact .inr hended
      · -- nobody took the handles before, so this call has all of them
        obtain ⟨hphase, huntaken, -⟩ := move.collected_eq hcollected
        obtain ⟨request, -, hserves⟩ := hrun.asked.serves at_phase
        obtain rfl := Option.some.inj (hphase.symm.trans at_phase)
        obtain ⟨rfl, -⟩ := hserves
        rcases turn.awaits ⟨rfl, rfl⟩ hawaits with ⟨-, -, hhandles⟩ | ⟨held, hheld, -⟩
        · intro handle hmem
          rw [move.handles_eq] at hmem
          rw [hhandles huntaken]
          exact .inl hmem
        · cases hheld
    | stayed at_phase same others =>
      have hbefore : .collected call ∈ history :=
        (List.mem_append.mp hcollected).resolve_right fun hmem => others _ hmem rfl
      rw [State.eq_of_stayed Phase.awaits? awaits_wakeCall same] at hawaits
      exact move.endedBut (ih hbefore at_phase hawaits)

/-- Where there is one shutdown, the tasks for which it need not wait any more have come to their
end. -/
lemma Runs.endedBut (hrun : Runs config labels s history)
    (honly : ∀ other, .began other .shutdown ∈ history → other = call)
    (hbegan : .began call .shutdown ∈ history) (hcall : s.calls[call]? = some phase)
    (hawaits : phase.awaits? = some handles) : s.EndedBut handles := by
  have htaken := hrun.handlesTaken_of_awaits hbegan hcall hawaits
  obtain ⟨other, hmem⟩ := hrun.collecting.exists_collected htaken
  obtain rfl := honly other (hrun.collecting.began_shutdown hmem)
  exact hrun.endedBut_of_collected hmem hcall hawaits

end

end BulkWrite.Batcher
