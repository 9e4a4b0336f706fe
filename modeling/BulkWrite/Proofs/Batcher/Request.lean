import BulkWrite.Proofs.Batcher.Phase

/-!
# Calls do what they were asked for

At each point a call stands for the request with which it was begun, and has pushed exactly the
items of the request that are not before it any more (`Phase.Serves`). So a call that returned
without an error has pushed all of them (`Runs.pushedBy_of_returned`).
-/

namespace BulkWrite.Batcher

open History

variable {α : Type}

/-- The request behind a flush. -/
def Request.ofFlush (closing : Bool) : Request α :=
  if closing then .shutdown else .flush

/-- A call at a point serves a request, having pushed the given items. -/
def Phase.Serves (request : Request α) (pushed : List α) : Phase α → Prop
  | .queued (.enqueue items) => request = .enqueue items ∧ pushed = []
  | .sending _ (.enqueue rest) => request = .enqueue (pushed ++ rest)
  | .queued (.flush closing) | .sending _ (.flush closing) | .draining _ closing _ _ =>
    request = .ofFlush closing ∧ pushed = []
  | .queued .close | .collecting | .joining _ _ => request = .shutdown ∧ pushed = []
  | .returned outcome =>
    match request with
    | .enqueue items => pushed <+: items ∧ (outcome = .ok () → pushed = items)
    | _ => pushed = []
  | .dropped =>
    match request with
    | .enqueue items => pushed <+: items
    | _ => pushed = []

@[simp]
lemma serves_wakeCall {request : Request α} {pushed : List α} {phase : Phase α} :
    (State.wakeCall phase).Serves request pushed ↔ phase.Serves request pushed := by
  cases phase <;> rfl

/-- The turn of a call serves the request that it served before. -/
lemma CallTurn.serves {s u : State α} {call : Nat} {label : Label α} {phase next : Phase α}
    {events : List (Event α)} (turn : CallTurn s call label phase next u events)
    {request : Request α} {pushed : List α} (h : phase.Serves request pushed) :
    next.Serves request (pushed ++ pushedBy call events) := by
  cases turn with
  | shutOut | joined | leftJoin =>
    obtain ⟨rfl, rfl⟩ := h
    simp [Phase.Serves]
  | pushed pushing | filled pushing =>
    cases pushing with
    | entered holds isOpen =>
      obtain ⟨rfl, rfl⟩ := h
      simp [Phase.Serves]
    | sent served room =>
      obtain rfl := h
      simp [Phase.Serves]
  | refusedPush unserved woken =>
    obtain rfl := h
    simp [Phase.Serves]
  | drained idle =>
    obtain ⟨rfl, rfl⟩ := h
    simp [Phase.Serves, Request.ofFlush]
  | @flushed outcome closing | @leftDrain outcome closing =>
    obtain ⟨rfl, rfl⟩ := h
    cases closing <;> simp [Phase.Serves, Request.ofFlush]
  | @leftList task =>
    cases task with
    | enqueue | close =>
      obtain ⟨rfl, rfl⟩ := h
      simp [Phase.Serves]
    | flush closing =>
      obtain ⟨rfl, rfl⟩ := h
      cases closing <;> simp [Phase.Serves, Request.ofFlush]
  | @abandoned batch rest =>
    cases rest with
    | enqueue items =>
      obtain rfl := h
      simp [Phase.Serves]
    | flush closing =>
      obtain ⟨rfl, rfl⟩ := h
      cases closing <;> simp [Phase.Serves, Request.ofFlush]
  | _ => simpa [Phase.Serves] using h

/-- A call that returned or was dropped has no turn. -/
lemma CallTurn.unfinished {s u : State α} {call : Nat} {label : Label α} {phase next : Phase α}
    {events : List (Event α)} (turn : CallTurn s call label phase next u events) :
    phase ≠ .dropped ∧ ∀ outcome, phase ≠ .returned outcome := by
  cases turn with
  | pushed pushing short => cases pushing <;> simp
  | filled pushing full => cases pushing <;> simp
  | _ => simp

/-- A call at this point has returned or was dropped. -/
def Phase.IsOver : Phase α → Prop
  | .returned _ | .dropped => True
  | _ => False

lemma isOver_wakeCall {phase : Phase α} : (State.wakeCall phase).IsOver ↔ phase.IsOver := by
  cases phase <;> rfl

/-- A call that is over has no turn. -/
lemma CallTurn.not_isOver {s u : State α} {call : Nat} {label : Label α} {phase next : Phase α}
    {events : List (Event α)} (turn : CallTurn s call label phase next u events) :
    ¬phase.IsOver := by
  obtain ⟨hdropped, hreturned⟩ := turn.unfinished
  intro hover
  cases phase with
  | returned outcome => exact hreturned outcome rfl
  | dropped => exact hdropped rfl
  | _ => exact hover

/-- A call that is over stays so. -/
lemma Move.phase_of_over {s t : State α} {call : Nat} {label : Label α} {phase : Phase α}
    {events : List (Event α)} (move : Move s label t events) (hcall : s.calls[call]? = some phase)
    (hover : phase.IsOver) : t.calls[call]? = some phase := by
  have hlt := Nat.lt_of_lt_of_le (List.getElem?_eq_some_iff.mp hcall).1 move.length_le
  have hnext := List.getElem?_eq_getElem hlt
  rw [hnext]
  cases move.phaseChange hnext with
  | begun request new events_eq phase_eq =>
    have hold := (List.getElem?_eq_some_iff.mp hcall).1
    omega
  | turned at_phase turn state_eq =>
    obtain rfl : phase = _ := Option.some.inj (hcall.symm.trans at_phase)
    exact absurd hover turn.not_isOver
  | stayed at_phase same others =>
    obtain rfl : phase = _ := Option.some.inj (hcall.symm.trans at_phase)
    rcases same with heq | heq
    · rw [heq]
    · rw [heq]
      cases phase with
      | returned outcome | dropped => rfl
      | _ => exact hover.elim

/-- A turn in which a call returns takes it to its outcome. -/
lemma CallTurn.next_of_returned {s u : State α} {call other : Nat} {label : Label α}
    {phase next : Phase α} {events : List (Event α)} {outcome : CallOutcome}
    (turn : CallTurn s call label phase next u events) (h : .returned other outcome ∈ events) :
    other = call ∧ next = .returned outcome := by
  cases turn <;> simp at h <;> simp [h]

/-- A turn that takes a call to an outcome makes it return. -/
lemma CallTurn.returned_of_next {s u : State α} {call : Nat} {label : Label α} {phase : Phase α}
    {events : List (Event α)} {outcome : CallOutcome}
    (turn : CallTurn s call label phase (.returned outcome) u events) :
    .returned call outcome ∈ events := by
  cases turn <;> simp

/-- Every call serves the one request with which it was begun. -/
structure Asked (s : State α) (history : List (Event α)) : Prop where
  serves {call : Nat} {phase : Phase α} : s.calls[call]? = some phase →
    ∃ request, .began call request ∈ history ∧ phase.Serves request (pushedBy call history)
  began_unique {call : Nat} {request request' : Request α} :
    .began call request ∈ history → .began call request' ∈ history → request = request'
  caller_lt {event : Event α} {call : Nat} :
    event ∈ history → event.caller = some call → call < s.calls.length
  phase_of_returned {call : Nat} {outcome : CallOutcome} :
    .returned call outcome ∈ history → s.calls[call]? = some (.returned outcome)
  returned_of_phase {call : Nat} {outcome : CallOutcome} :
    s.calls[call]? = some (.returned outcome) → .returned call outcome ∈ history

namespace Asked

variable {s t u : State α} {call : Nat} {label : Label α} {history events : List (Event α)}

lemma initial (config : BatcherConfig) : Asked (State.initial (α := α) config) [] := by
  constructor <;> intros <;> simp_all [State.initial]

/-- A call that is yet to begin has done nothing. -/
lemma caller_ne (h : Asked s history) :
    ∀ event ∈ history, event.caller ≠ some s.calls.length := by
  intro event hevent hcaller
  have hlt := h.caller_lt hevent hcaller
  omega

lemma serves_of_move (h : Asked s history) (move : Move s label t events) {phase : Phase α}
    (hcall : t.calls[call]? = some phase) :
    ∃ request, .began call request ∈ history ++ events ∧
      phase.Serves request (pushedBy call (history ++ events)) := by
  rw [Projection.append]
  cases move.phaseChange hcall with
  | begun request new events_eq phase_eq =>
    subst new events_eq phase_eq
    refine ⟨request, by simp, ?_⟩
    rw [pushedBy_of_caller h.caller_ne]
    cases request <;> simp [Request.task, Phase.Serves, Request.ofFlush]
  | turned at_phase turn state_eq =>
    obtain ⟨request, hbegan, hserves⟩ := h.serves at_phase
    exact ⟨request, List.mem_append_left _ hbegan, turn.serves hserves⟩
  | stayed at_phase same others =>
    obtain ⟨request, hbegan, hserves⟩ := h.serves at_phase
    refine ⟨request, List.mem_append_left _ hbegan, ?_⟩
    rw [pushedBy_of_caller others, List.append_nil]
    exact (State.iff_of_stayed (Phase.Serves request _) serves_wakeCall same).mpr hserves

/-- A step begins the call whose number is next, which no earlier event can mention. -/
lemma began_unique_of_move (h : Asked s history) (move : Move s label t events)
    {request request' : Request α} (hfirst : .began call request ∈ history ++ events)
    (hsecond : .began call request' ∈ history ++ events) : request = request' := by
  have hold {asked : Request α} (hmem : .began call asked ∈ history ++ events) :
      .began call asked ∈ history ∨ call = s.calls.length ∧ events = [.began call asked] := by
    rcases List.mem_append.mp hmem with hmem | hmem
    · exact .inl hmem
    · exact .inr (move.began_eq hmem)
  rcases hold hfirst with hfirst | ⟨hcall, hevents⟩
  · rcases hold hsecond with hsecond | ⟨hcall, -⟩
    · exact h.began_unique hfirst hsecond
    · have hlt := h.caller_lt hfirst rfl
      omega
  · rcases hold hsecond with hsecond | ⟨-, hevents'⟩
    · have hlt := h.caller_lt hsecond rfl
      omega
    · rw [hevents] at hevents'
      simpa using hevents'

lemma caller_lt_of_move (h : Asked s history) (move : Move s label t events) {event : Event α}
    (hevent : event ∈ history ++ events) (hcaller : event.caller = some call) :
    call < t.calls.length := by
  rcases List.mem_append.mp hevent with hevent | hevent
  · exact Nat.lt_of_lt_of_le (h.caller_lt hevent hcaller) move.length_le
  · exact move.caller_lt hevent hcaller

lemma phase_of_move (h : Asked s history) (move : Move s label t events) {outcome : CallOutcome}
    (hreturned : .returned call outcome ∈ history ++ events) :
    t.calls[call]? = some (.returned outcome) := by
  rcases List.mem_append.mp hreturned with hreturned | hreturned
  · exact move.phase_of_over (h.phase_of_returned hreturned) trivial
  · have hcall := List.getElem?_eq_getElem (move.caller_lt hreturned rfl)
    rw [hcall]
    cases move.phaseChange hcall with
    | begun request new events_eq phase_eq => simp [events_eq] at hreturned
    | turned at_phase turn state_eq => rw [(turn.next_of_returned hreturned).2]
    | stayed at_phase same others => exact absurd rfl (others _ hreturned)

lemma returned_of_move (h : Asked s history) (move : Move s label t events) {outcome : CallOutcome}
    (hcall : t.calls[call]? = some (.returned outcome)) :
    .returned call outcome ∈ history ++ events := by
  cases move.phaseChange hcall with
  | begun request new events_eq phase_eq => cases phase_eq
  | turned at_phase turn state_eq => exact List.mem_append_right _ turn.returned_of_next
  | stayed at_phase same others =>
    have hold := (State.iff_of_stayed (· = .returned outcome) State.wakeCall_eq_returned same).mp rfl
    exact List.mem_append_left _ (h.returned_of_phase (hold ▸ at_phase))

lemma step (h : Asked s history) (move : Move s label t events) :
    Asked t (history ++ events) where
  serves := h.serves_of_move move
  began_unique := h.began_unique_of_move move
  caller_lt := h.caller_lt_of_move move
  phase_of_returned := h.phase_of_move move
  returned_of_phase := h.returned_of_move move

end Asked

/-- In every run, every call serves the one request with which it was begun. -/
theorem Runs.asked {config : BatcherConfig} {labels : List (Label α)} {s : State α}
    {history : List (Event α)} (hrun : Runs config labels s history) : Asked s history := by
  induction hrun with
  | start => exact .initial config
  | step hrun hstep ih => exact ih.step (State.move_of_step hstep)

/-- A call serves the request with which it was begun. -/
lemma Runs.serves {config : BatcherConfig} {labels : List (Label α)} {s : State α}
    {history : List (Event α)} {call : Nat} {request : Request α} {phase : Phase α}
    (hrun : Runs config labels s history) (hbegan : .began call request ∈ history)
    (hcall : s.calls[call]? = some phase) : phase.Serves request (pushedBy call history) := by
  obtain ⟨asked, hasked, hserves⟩ := hrun.asked.serves hcall
  obtain rfl := hrun.asked.began_unique hbegan hasked
  exact hserves

/-- A call returns in its own turn. -/
lemma Move.turn_of_returned {s t : State α} {label : Label α} {events : List (Event α)} {call : Nat}
    {outcome : CallOutcome} (move : Move s label t events) (h : .returned call outcome ∈ events) :
    ∃ (phase : Phase α) (u : State α), s.calls[call]? = some phase ∧
      CallTurn s call label phase (.returned outcome) u events := by
  cases move with
  | begun request => simp at h
  | call at_phase turn =>
    obtain ⟨rfl, rfl⟩ := turn.next_of_returned h
    exact ⟨_, _, at_phase, turn⟩
  | worker at_point turn => cases turn <;> simp at h
  | dispatcher turn => cases turn <;> simp at h

/-- The turn in which a call returns, and the run before it. -/
lemma Runs.turn_of_returned {config : BatcherConfig} {labels : List (Label α)} {s : State α}
    {history before after : List (Event α)} {call : Nat} {request : Request α}
    {outcome : CallOutcome} (hrun : Runs config labels s history)
    (hhistory : history = before ++ .returned call outcome :: after)
    (hbegan : .began call request ∈ history) :
    ∃ (labels : List (Label α)) (u : State α) (past : List (Event α)) (label : Label α)
      (phase : Phase α) (v : State α) (first rest : List (Event α)), Runs config labels u past ∧
      before = past ++ first ∧ u.calls[call]? = some phase ∧ .began call request ∈ past ∧
      phase.Serves request (pushedBy call past) ∧
      CallTurn u call label phase (.returned outcome) v
        (first ++ .returned call outcome :: rest) := by
  obtain ⟨labels, u, past, label, v, first, rest, hpast, hstep, rfl⟩ := hrun.exists_step hhistory
  obtain ⟨phase, w, at_phase, turn⟩ :=
    (State.move_of_step hstep).turn_of_returned (List.mem_append_right _ List.mem_cons_self)
  obtain ⟨asked, hasked, hserves⟩ := hpast.asked.serves at_phase
  have hmem : .began call asked ∈ history := by simp [hhistory, hasked]
  obtain rfl := hrun.asked.began_unique hbegan hmem
  exact ⟨labels, u, past, label, phase, w, first, rest, hpast, rfl, at_phase, hasked, hserves, turn⟩

/-- A call that returned without an error has pushed all its items. -/
theorem Runs.pushedBy_of_returned {config : BatcherConfig} {labels : List (Label α)} {s : State α}
    {history : List (Event α)} (hrun : Runs config labels s history) {call : Nat} {items : List α}
    (hbegan : .began call (.enqueue items) ∈ history)
    (hreturned : .returned call (.ok ()) ∈ history) : pushedBy call history = items := by
  have hserves := hrun.serves hbegan (hrun.asked.phase_of_returned hreturned)
  exact hserves.2 rfl

end BulkWrite.Batcher
