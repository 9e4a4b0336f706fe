import BulkWrite.Proofs.Batcher.History
import BulkWrite.Proofs.Batcher.Turn

/-!
# Where the calls are

A step as one call sees it: the call was just begun, or had its turn, or stayed where it was while
somebody else did something, and may have been woken (`Move.phaseChange`). An invariant of a call is
carried along these three cases.
-/

namespace BulkWrite.Batcher

variable {α : Type}

namespace State

variable {s u : State α} {call other : Nat} {phase next : Phase α}

@[simp]
lemma wakeCall_eq_sending {batch : Batch α} {rest : Rest α} :
    wakeCall phase = .sending batch rest ↔ phase = .sending batch rest := by
  cases phase <;> simp [wakeCall]

lemma wakeCall_eq_collecting : wakeCall phase = .collecting ↔ phase = .collecting := by
  cases phase <;> simp [wakeCall]

lemma wakeCall_eq_returned {outcome : CallOutcome} :
    wakeCall phase = .returned outcome ↔ phase = .returned outcome := by
  cases phase <;> simp [wakeCall]

lemma wakeCall_eq_queued {task : Task α} :
    wakeCall phase = .queued task ↔ phase = .queued task := by
  cases phase <;> simp [wakeCall]

lemma wakeCall_eq_dropped : wakeCall phase = .dropped ↔ phase = .dropped := by
  cases phase <;> simp [wakeCall]

/-- What no wake-up changes of a point is kept by a call that stays. -/
lemma eq_of_stayed {β : Type} (f : Phase α → β) {old : Phase α}
    (hwake : ∀ {phase}, f (wakeCall phase) = f phase) (same : phase = old ∨ phase = wakeCall old) :
    f phase = f old := by
  rcases same with rfl | rfl
  · rfl
  · exact hwake

/-- A property that no wake-up changes is kept by a call that stays. -/
lemma iff_of_stayed (P : Phase α → Prop) {old : Phase α}
    (hwake : ∀ {phase}, P (wakeCall phase) ↔ P phase) (same : phase = old ∨ phase = wakeCall old) :
    P phase ↔ P old := by
  rcases same with rfl | rfl
  · exact Iff.rfl
  · exact hwake

/-- Where a call is after the turn of a call: that one is at its new point, and every other one is
where it was, but may have been woken. -/
lemma phase_of_setCall (hcalls : u.calls = s.calls ∨ u.calls = s.calls.map wakeCall)
    (h : (u.setCall call next).calls[other]? = some phase) :
    (other = call ∧ phase = next) ∨
      (other ≠ call ∧ ∃ old, s.calls[other]? = some old ∧ (phase = old ∨ phase = wakeCall old)) := by
  simp only [setCall, List.getElem?_set] at h
  by_cases heq : call = other
  · rw [if_pos heq] at h
    split at h
    · exact .inl ⟨heq.symm, (Option.some.inj h).symm⟩
    · cases h
  · rw [if_neg heq] at h
    refine .inr ⟨Ne.symm heq, ?_⟩
    rcases hcalls with hcalls | hcalls
    · exact ⟨phase, by rwa [hcalls] at h, .inl rfl⟩
    · rw [hcalls, List.getElem?_map] at h
      obtain ⟨old, hold, rfl⟩ := Option.map_eq_some_iff.mp h
      exact ⟨old, hold, .inr rfl⟩

/-- After its turn a call is at its new point. -/
lemma setCall_self (hcalls : u.calls = s.calls ∨ u.calls = s.calls.map wakeCall)
    (at_phase : s.calls[call]? = some phase) : (u.setCall call next).calls[call]? = some next := by
  obtain ⟨old, hold, -⟩ := phase_in_turn hcalls at_phase
  exact List.getElem?_set_self (List.getElem?_eq_some_iff.mp hold).1

/-- Where a call is after a call was begun. -/
lemma phase_of_begun {calls : List (Phase α)} (h : (calls ++ [next])[other]? = some phase) :
    calls[other]? = some phase ∨ (other = calls.length ∧ phase = next) := by
  rw [List.getElem?_append] at h
  split at h
  · exact .inl h
  · refine .inr ?_
    have hzero : other - calls.length = 0 := by
      by_contra hne
      rw [List.getElem?_eq_none (by rw [List.length_singleton]; omega)] at h
      cases h
    rw [hzero] at h
    exact ⟨by omega, (Option.some.inj h).symm⟩

variable {t : State α} {batch : Batch α} {rest : Rest α}

/-- Which calls have a batch in hand after the turn of a call. -/
lemma sending_of_setCall (hcalls : u.calls = s.calls ∨ u.calls = s.calls.map wakeCall)
    (h : (u.setCall call next).calls[other]? = some (.sending batch rest)) :
    (other = call ∧ next = .sending batch rest) ∨
      (other ≠ call ∧ s.calls[other]? = some (.sending batch rest)) := by
  rcases phase_of_setCall hcalls h with ⟨heq, hnext⟩ | ⟨hne, old, hold, hphase | hphase⟩
  · exact .inl ⟨heq, hnext.symm⟩
  · exact .inr ⟨hne, hphase ▸ hold⟩
  · exact .inr ⟨hne, wakeCall_eq_sending.mp hphase.symm ▸ hold⟩

/-- Nobody gets a batch in hand by being woken. -/
lemma sending_of_woken (hcalls : t.calls = s.calls ∨ t.calls = s.calls.map wakeCall)
    (h : t.calls[other]? = some (.sending batch rest)) :
    s.calls[other]? = some (.sending batch rest) := by
  rcases hcalls with hcalls | hcalls
  · rwa [hcalls] at h
  · rw [hcalls, List.getElem?_map] at h
    obtain ⟨old, hold, hwoken⟩ := Option.map_eq_some_iff.mp h
    rwa [wakeCall_eq_sending.mp hwoken] at hold

/-- Nobody has a batch in hand when beginning. -/
lemma sending_of_begun {calls : List (Phase α)} {task : Task α}
    (h : (calls ++ [.queued task])[other]? = some (.sending batch rest)) :
    calls[other]? = some (.sending batch rest) := by
  rcases phase_of_begun h with hold | ⟨-, heq⟩
  · exact hold
  · cases heq

end State

/-- A step takes a call to a point. -/
inductive PhaseChange (s : State α) (call : Nat) (label : Label α) (t : State α)
    (events : List (Event α)) (phase : Phase α) : Prop where
  | begun (request : Request α) (new : call = s.calls.length)
      (events_eq : events = [.began call request]) (phase_eq : phase = .queued request.task)
  | turned {old : Phase α} {u : State α} (at_phase : s.calls[call]? = some old)
      (turn : CallTurn s call label old phase u events) (state_eq : t = u.setCall call phase)
  | stayed {old : Phase α} (at_phase : s.calls[call]? = some old)
      (same : phase = old ∨ phase = State.wakeCall old)
      (others : ∀ event ∈ events, event.caller ≠ some call)

/-- What a call does in its turn, nobody else does. -/
lemma CallTurn.caller_eq {s u : State α} {call : Nat} {label : Label α} {phase next : Phase α}
    {events : List (Event α)} (turn : CallTurn s call label phase next u events) :
    ∀ event ∈ events, event.caller = some call := by
  cases turn <;> simp [Event.caller]

lemma CallTurn.caller_ne {s u : State α} {call other : Nat} {label : Label α} {phase next : Phase α}
    {events : List (Event α)} (turn : CallTurn s call label phase next u events)
    (hne : other ≠ call) : ∀ event ∈ events, event.caller ≠ some other := by
  intro event hevent hcaller
  rw [turn.caller_eq event hevent] at hcaller
  exact hne (Option.some.inj hcaller).symm

lemma WorkerTurn.caller_eq {s u : State α} {worker : Nat} {label : Label α} {w next : Worker α}
    {events : List (Event α)} (turn : WorkerTurn s worker label w next u events) :
    ∀ event ∈ events, event.caller = none := by
  cases turn <;> simp [Event.caller]

lemma DispatcherTurn.caller_eq {s t : State α} {label : Label α} {events : List (Event α)}
    (turn : DispatcherTurn s label t events) : ∀ event ∈ events, event.caller = none := by
  cases turn <;> simp [Event.caller]

/-- The three ways of a call to a point. -/
theorem Move.phaseChange {s t : State α} {label : Label α} {events : List (Event α)}
    (move : Move s label t events) {call : Nat} {phase : Phase α}
    (h : t.calls[call]? = some phase) : PhaseChange s call label t events phase := by
  cases move with
  | begun request =>
    rcases State.phase_of_begun h with hold | ⟨rfl, rfl⟩
    · refine .stayed hold (.inl rfl) ?_
      have hlt := (List.getElem?_eq_some_iff.mp hold).1
      simp only [List.mem_singleton, forall_eq, Event.caller, ne_eq, Option.some.injEq]
      omega
    · exact .begun request rfl rfl rfl
  | call at_phase turn =>
    rcases State.phase_of_setCall turn.calls_eq h with ⟨rfl, rfl⟩ | ⟨hne, old, hold, same⟩
    · exact .turned at_phase turn rfl
    · exact .stayed hold same (turn.caller_ne hne)
  | worker at_point turn =>
    exact .stayed (turn.calls_eq ▸ h) (.inl rfl) fun event hevent => by
      simp [turn.caller_eq event hevent]
  | dispatcher turn =>
    have hevents : ∀ event ∈ events, event.caller ≠ some call := by
      intro event hevent
      simp [turn.caller_eq event hevent]
    rcases turn.calls_eq with heq | heq
    · exact .stayed (heq ▸ h) (.inl rfl) hevents
    · rw [heq, List.getElem?_map] at h
      obtain ⟨old, hold, rfl⟩ := Option.map_eq_some_iff.mp h
      exact .stayed hold (.inr rfl) hevents

/-- A step that begins a call does nothing else. -/
lemma Move.began_eq {s t : State α} {label : Label α} {events : List (Event α)} {call : Nat}
    {request : Request α} (move : Move s label t events) (h : .began call request ∈ events) :
    call = s.calls.length ∧ events = [.began call request] := by
  cases move with
  | begun request' =>
    obtain ⟨rfl, rfl⟩ : call = s.calls.length ∧ request = request' := by simpa using h
    exact ⟨rfl, rfl⟩
  | call at_phase turn => cases turn <;> simp at h
  | worker at_point turn => cases turn <;> simp at h
  | dispatcher turn => cases turn <;> simp at h

/-- A call that was begun by a step waits for the pending list after it. -/
lemma Move.phase_of_began {s t : State α} {label : Label α} {events : List (Event α)} {call : Nat}
    {request : Request α} {phase : Phase α} (move : Move s label t events)
    (hbegan : .began call request ∈ events) (hcall : t.calls[call]? = some phase) :
    phase = .queued request.task := by
  obtain ⟨new, hevents⟩ := move.began_eq hbegan
  cases move.phaseChange hcall with
  | begun request' new' events_eq phase_eq =>
    rw [hevents] at events_eq
    obtain rfl : request = request' := by simpa using events_eq
    exact phase_eq
  | turned at_phase turn state_eq =>
    have hlt := (List.getElem?_eq_some_iff.mp at_phase).1
    omega
  | stayed at_phase same others =>
    have hlt := (List.getElem?_eq_some_iff.mp at_phase).1
    omega

/-- Only calls that were begun do anything. -/
lemma Move.caller_lt {s t : State α} {label : Label α} {events : List (Event α)} {event : Event α}
    {call : Nat} (move : Move s label t events) (h : event ∈ events)
    (hcaller : event.caller = some call) : call < t.calls.length := by
  cases move with
  | begun request =>
    obtain rfl := List.mem_singleton.mp h
    obtain rfl := Option.some.inj hcaller
    simp
  | call at_phase turn =>
    have hlt := (List.getElem?_eq_some_iff.mp at_phase).1
    rw [turn.caller_eq event h] at hcaller
    obtain rfl := Option.some.inj hcaller
    rcases turn.calls_eq with heq | heq <;> simpa [State.setCall, heq] using hlt
  | worker at_point turn => simp [turn.caller_eq event h] at hcaller
  | dispatcher turn => simp [turn.caller_eq event h] at hcaller

/-- No call goes away. -/
lemma Move.length_le {s t : State α} {label : Label α} {events : List (Event α)}
    (move : Move s label t events) : s.calls.length ≤ t.calls.length := by
  cases move with
  | begun request => simp
  | call at_phase turn =>
    rcases turn.calls_eq with heq | heq <;> simp [State.setCall, heq]
  | worker at_point turn => simp [State.setWorker, turn.calls_eq]
  | dispatcher turn => rcases turn.calls_eq with heq | heq <;> simp [heq]

end BulkWrite.Batcher
