import BulkWrite.Proofs.Batcher.Pending

/-!
# What a flush leaves behind

A flush that has got the pending list leaves it empty. Whatever is pending from then on was pushed
after the flush began (`Runs.pending_suffix`), and the flush forms no other batch
(`Runs.length_formedBy_le`).
-/

namespace BulkWrite.Batcher

open History

variable {α : Type}

/-- A call that serves a request is a flush that has emptied the pending list. -/
def Phase.HasCut (request : Request α) : Phase α → Prop
  | .queued .close | .sending _ (.flush _) | .draining _ _ _ _ | .collecting | .joining _ _ => True
  | .returned _ => ∀ items, request ≠ .enqueue items
  | .queued _ | .sending _ _ | .dropped => False

/-- How many batches a flush may still form. -/
def Phase.cuts : Phase α → Nat
  | .queued (.flush _) => 1
  | _ => 0

@[simp]
lemma hasCut_wakeCall {request : Request α} {phase : Phase α} :
    (State.wakeCall phase).HasCut request ↔ phase.HasCut request := by
  cases phase <;> rfl

@[simp]
lemma cuts_wakeCall {phase : Phase α} : (State.wakeCall phase).cuts = phase.cuts := by
  cases phase <;> rfl

lemma Phase.cuts_le_one (phase : Phase α) : phase.cuts ≤ 1 := by
  unfold cuts
  split
  · exact Nat.le_refl 1
  · exact Nat.zero_le 1

/-! ## One turn -/

section

variable {s t u : State α} {call : Nat} {label : Label α} {phase next : Phase α}
  {events : List (Event α)} {request : Request α} {pushed : List α}

/-- A call that is about to push items was not begun as a flush. -/
lemma Pushing.request_eq {items : List α} (pushing : Pushing s call phase u items)
    (h : phase.Serves request pushed) : ∃ items, request = .enqueue items := by
  cases pushing with
  | entered holds isOpen => exact ⟨_, h.1⟩
  | sent served room => exact ⟨_, h⟩

/-- A flush comes to have emptied the pending list by emptying it. -/
lemma CallTurn.hasCut (turn : CallTurn s call label phase next u events)
    (hserves : phase.Serves request pushed) (h : next.HasCut request) :
    phase.HasCut request ∨ u.pending = [] := by
  cases turn with
  | shutOut holds closed => exact absurd hserves.1 (h _)
  | pushed pushing short =>
    obtain ⟨items, heq⟩ := pushing.request_eq hserves
    exact absurd heq (h items)
  | refusedPush unserved woken => exact absurd hserves (h _)
  | filled pushing full => exact h.elim
  | swept holds empty => exact .inr empty
  | discarded | cut => exact .inr rfl
  | leftList | abandoned => exact h.elim
  | _ => exact .inl trivial

/-- In its turn a flush forms as many batches as it then may form fewer. -/
lemma CallTurn.length_formedBy (turn : CallTurn s call label phase next u events)
    (hserves : phase.Serves request pushed) (hflush : ∀ items, request ≠ .enqueue items) :
    (formedBy call events).length + next.cuts ≤ phase.cuts := by
  cases turn with
  | filled pushing full =>
    obtain ⟨items, heq⟩ := pushing.request_eq hserves
    exact absurd heq (hflush items)
  | cut holds isOpen nonempty => simp [Phase.cuts]
  | _ => simp [Phase.cuts]

/-- What is pending after a step was pending before or has been pushed. -/
lemma Move.pending_suffix (move : Move s label t events) :
    t.pending <:+ s.pending ++ History.pushed events :=
  ⟨_, move.split.symm⟩

end

/-! ## Runs -/

section

variable {config : BatcherConfig} {labels : List (Label α)} {s : State α}
  {history before after : List (Event α)} {call : Nat} {request : Request α} {phase : Phase α}

/-- Where a flush has emptied the pending list, what is pending was pushed since it began. -/
theorem Runs.pending_suffix (hrun : Runs config labels s history)
    (hhistory : history = before ++ .began call request :: after)
    (hcall : s.calls[call]? = some phase) (hcut : phase.HasCut request) :
    s.pending <:+ pushed after := by
  induction hrun generalizing after phase with
  | start => simp at hhistory
  | @step labels s t label history events hrun hstep ih =>
    have move := State.move_of_step hstep
    rcases split_of_append hhistory with ⟨more, hold, rfl⟩ | ⟨first, -, hevents⟩
    · -- a step moves the pending list on by what it pushes, so the suffix stays one
      have hpending (h : s.pending <:+ pushed more) : t.pending <:+ pushed (more ++ events) := by
        obtain ⟨earlier, hearlier⟩ := h
        rw [pushed_append, ← hearlier, List.append_assoc]
        exact move.pending_suffix.trans (List.suffix_append _ _)
      have hbegan : .began call request ∈ history := hold ▸ (by simp)
      cases move.phaseChange hcall with
      | begun request' new events_eq phase_eq =>
        have hlt := hrun.asked.caller_lt hbegan rfl
        omega
      | turned at_phase turn state_eq =>
        rcases turn.hasCut (hrun.serves hbegan at_phase) hcut with hcut | hempty
        · exact hpending (ih hold at_phase hcut)
        · rw [state_eq]
          show _ <:+ _
          rw [State.setCall, hempty]
          exact List.nil_suffix
      | stayed at_phase same others =>
        rw [State.iff_of_stayed (Phase.HasCut request) hasCut_wakeCall same] at hcut
        exact hpending (ih hold at_phase hcut)
    · -- a call that has just begun has not emptied the list
      have hbegan : .began call request ∈ events := hevents ▸ by simp
      rw [move.phase_of_began hbegan hcall] at hcut
      cases request <;> exact hcut.elim

/-- A flush forms at most one batch. -/
theorem Runs.length_formedBy_le (hrun : Runs config labels s history)
    (hbegan : .began call request ∈ history) (hflush : ∀ items, request ≠ .enqueue items)
    (hcall : s.calls[call]? = some phase) :
    (formedBy call history).length + phase.cuts ≤ 1 := by
  induction hrun generalizing phase with
  | start => simp at hbegan
  | @step labels s t label history events hrun hstep ih =>
    have move := State.move_of_step hstep
    rw [Projection.append, List.length_append]
    rcases List.mem_append.mp hbegan with hbegan | hbegan
    · cases move.phaseChange hcall with
      | begun request' new events_eq phase_eq =>
        have hlt := hrun.asked.caller_lt hbegan rfl
        omega
      | turned at_phase turn state_eq =>
        have hold := ih hbegan at_phase
        have hturn := turn.length_formedBy (hrun.serves hbegan at_phase) hflush
        omega
      | stayed at_phase same others =>
        rw [formedBy_of_caller others, List.length_nil,
          State.eq_of_stayed Phase.cuts cuts_wakeCall same]
        exact ih hbegan at_phase
    · -- a call that has just begun has formed no batch
      obtain ⟨rfl, rfl⟩ := move.began_eq hbegan
      rw [formedBy_of_caller hrun.asked.caller_ne]
      have hcuts := phase.cuts_le_one
      simpa using hcuts

end

end BulkWrite.Batcher
