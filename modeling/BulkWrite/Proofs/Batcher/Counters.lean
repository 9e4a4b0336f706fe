import BulkWrite.Proofs.Batcher.Loss

/-!
# What the published numbers count

A batcher publishes how many flushes there are, how many batches are in flight and how many items are
pending, and writes each of these numbers at other moments than those at which what it counts
changes. The number of flushes is always that of the calls with a flush before them
(`Runs.drains_eq`). The other two go wrong when a caller drops a call that has a batch in hand: the
batch is gone and is counted as in flight for good, and the pending list, which the call had emptied,
is published as it was before, until something happens to it again (`Runs.announced`).

Main statement, for runs in which no worker breaks down: which batches and items the numbers count,
and that a flush waits in vain only after a batch was dropped like this (`Runs.counters`). So there
are runs in which the numbers are wrong (`not_all_counted`).
-/

namespace BulkWrite.Batcher

open History

variable {α : Type} {config : BatcherConfig} {labels : List (Label α)} {s t u : State α}
  {history events : List (Event α)} {call : Nat} {label : Label α} {phase next : Phase α}

/-! ## Calls at points of a kind -/

/-- A call at this point has a batch in hand. -/
def Phase.isSending : Phase α → Bool
  | .sending _ _ => true
  | _ => false

@[simp]
lemma isSending_wakeCall (phase : Phase α) :
    (State.wakeCall phase).isSending = phase.isSending := by
  cases phase <;> rfl

/-- Waking calls does not change how many are at points of a kind. -/
lemma State.countP_wakeCalls {p : Phase α → Bool} (hwoken : ∀ phase, p (wakeCall phase) = p phase) :
    (s.calls.map wakeCall).countP p = s.calls.countP p := by
  rw [List.countP_map]
  exact congrArg (fun q => s.calls.countP q) (funext hwoken)

/-- In its turn one call comes to another point, and so does its share. -/
lemma State.countP_setCall {p : Phase α → Bool} (hwoken : ∀ phase, p (wakeCall phase) = p phase)
    (at_phase : s.calls[call]? = some phase) (next : Phase α)
    (hcalls : u.calls = s.calls ∨ u.calls = s.calls.map wakeCall) :
    (u.setCall call next).calls.countP p + (p phase).toNat =
      s.calls.countP p + (p next).toNat := by
  have hcount : u.calls.countP p = s.calls.countP p := by
    rcases hcalls with hcalls | hcalls
    · rw [hcalls]
    · rw [hcalls, countP_wakeCalls hwoken]
  obtain ⟨old, hold, hwas⟩ := phase_in_turn hcalls at_phase
  have hsame : p old = p phase := by
    rcases hwas with rfl | rfl
    · rfl
    · exact hwoken phase
  obtain ⟨hlt, hget⟩ := List.getElem?_eq_some_iff.mp hold
  show (u.calls.set call next).countP p + _ = _
  rw [List.countP_set hlt, hget, hsame, hcount]
  cases hp : p phase with
  | false => cases p next <;> simp
  | true =>
    -- the call itself is one of those that are counted
    have hpos : 0 < u.calls.countP p :=
      List.countP_pos_iff.mpr ⟨old, List.mem_of_getElem? hold, hsame.trans hp⟩
    rw [hcount] at hpos
    cases p next <;> simp <;> omega

/-! ## Flushes -/

/-- A turn of a call counts its flush. -/
lemma CallTurn.drains_eq (turn : CallTurn s call label phase next u events) :
    u.drains = s.drains + next.isFlushing.toNat - phase.isFlushing.toNat := by
  cases turn with
  | pushed pushing short => cases pushing <;> rfl
  | filled pushing full => cases pushing <;> rfl
  | @leftList task => cases task <;> rfl
  | @abandoned batch rest => cases rest <;> rfl
  | _ => rfl

/-- The published number of flushes is that of the calls with a flush before them. -/
theorem Runs.drains_eq (hrun : Runs config labels s history) :
    s.drains = s.calls.countP Phase.isFlushing := by
  induction hrun with
  | start => rfl
  | @step labels s t label history events hrun hstep ih =>
    cases State.move_of_step hstep with
    | begun request =>
      show s.drains + request.drains = (s.calls ++ [_]).countP _
      rw [List.countP_append, ih]
      cases request <;> rfl
    | @call call label phase next u events at_phase turn =>
      have hcount := State.countP_setCall isFlushing_wakeCall at_phase next turn.calls_eq
      have hturn := turn.drains_eq
      show u.drains = _
      omega
    | @worker worker label w next u events at_point turn =>
      show u.drains = u.calls.countP _
      rw [turn.calls_eq, ← ih]
      cases turn <;> rfl
    | dispatcher turn =>
      cases turn with
      | woken waking =>
        show s.drains = (s.calls.map State.wakeCall).countP _
        rw [State.countP_wakeCalls isFlushing_wakeCall, ih]
      | _ => exact ih

/-! ## Pending items -/

/-- Nothing happened to the pending list. -/
def Untouched (history : List (Event α)) : Prop :=
  pushes history = [] ∧ formed history = [] ∧ discarded history = []

/-- The last that happened to the pending list is that a batch was cut from it and dropped. -/
def AbandonedLast (history : List (Event α)) : Prop :=
  ∃ before call batch after, history = before ++ .abandoned call batch :: after ∧ Untouched after

lemma AbandonedLast.append (h : AbandonedLast history) (huntouched : Untouched events) :
    AbandonedLast (history ++ events) := by
  obtain ⟨before, call, batch, after, rfl, hpushes, hformed, hdiscarded⟩ := h
  refine ⟨before, call, batch, after ++ events, by simp, ?_, ?_, ?_⟩
  · rw [Projection.append, hpushes, huntouched.1]
    rfl
  · rw [Projection.append, hformed, huntouched.2.1]
    rfl
  · rw [Projection.append, hdiscarded, huntouched.2.2]
    rfl

/-- What a turn of a call does to the pending list and to what is published of it. -/
lemma CallTurn.published (turn : CallTurn s call label phase next u events) :
    u.published = u.pending.length ∨ (u.pending = [] ∧ next.isSending = true) ∨
      (u.pending = s.pending ∧ u.published = s.published ∧
        ((phase.isSending = false ∧ next.isSending = false ∧ Untouched events) ∨
          (phase.isSending = true ∧ ∃ batch, events = [.abandoned call batch]))) := by
  cases turn with
  | pushed | discarded | refusedPush | refusedFlush | sent => exact .inl rfl
  | filled | cut => exact .inr (.inl ⟨rfl, rfl⟩)
  | abandoned => exact .inr (.inr ⟨rfl, rfl, .inr ⟨rfl, _, rfl⟩⟩)
  | _ => exact .inr (.inr ⟨rfl, rfl, .inl ⟨rfl, rfl, rfl, rfl, rfl⟩⟩)

/-- Nobody else touches the pending list while a call has a batch in hand. -/
lemma CallTurn.pending_of_sending (hlocked : Locked s) (at_phase : s.calls[call]? = some phase)
    (turn : CallTurn s call label phase next u events) {other : Nat} (hne : other ≠ call)
    {batch : Batch α} {rest : Rest α} (hother : s.calls[other]? = some (.sending batch rest)) :
    u.pending = s.pending := by
  cases turn with
  | pushed pushing | filled pushing =>
    exact absurd hother (hlocked.not_sending_of_pushing at_phase pushing hne)
  | discarded holds | cut holds => exact absurd hother (hlocked.not_sending_of_holds holds hne)
  | _ => rfl

/-- What is published of the pending list. -/
structure Announced (s : State α) (history : List (Event α)) : Prop where
  /-- A call that has a batch in hand has emptied the list. -/
  emptied {call : Nat} {batch : Batch α} {rest : Rest α} :
    s.calls[call]? = some (.sending batch rest) → s.pending = []
  /-- The published length is right, but for a list that was emptied by a call that still has the
  batch in hand, or was dropped with it. -/
  published : s.published = s.pending.length ∨
    s.pending = [] ∧ (0 < s.calls.countP Phase.isSending ∨ AbandonedLast history)

namespace Announced

/-- Steps that leave the pending list alone do not change what is published of it. -/
lemma of_untouched (h : Announced s history) (hpending : t.pending = s.pending)
    (hpublished : t.published = s.published)
    (hcount : t.calls.countP Phase.isSending = s.calls.countP Phase.isSending)
    (hsending : ∀ {call : Nat} {batch : Batch α} {rest : Rest α},
      t.calls[call]? = some (.sending batch rest) → s.calls[call]? = some (.sending batch rest))
    (huntouched : Untouched events) : Announced t (history ++ events) := by
  refine ⟨fun hcall => hpending ▸ h.emptied (hsending hcall), ?_⟩
  rw [hpending, hpublished, hcount]
  exact h.published.imp_right (And.imp_right (Or.imp_right fun hlast => hlast.append huntouched))

lemma of_call (h : Announced s history) (hlocked : Locked s)
    (at_phase : s.calls[call]? = some phase)
    (turn : CallTurn s call label phase next u events) :
    Announced (u.setCall call next) (history ++ events) := by
  have hcount := State.countP_setCall isSending_wakeCall at_phase next turn.calls_eq
  constructor
  case emptied =>
    intro other batch rest hother
    show u.pending = []
    rcases State.sending_of_setCall turn.calls_eq hother with ⟨rfl, rfl⟩ | ⟨hne, hold⟩
    · cases turn <;> rfl
    · rw [turn.pending_of_sending hlocked at_phase hne hold]
      exact h.emptied hold
  case published =>
    show u.published = u.pending.length ∨ u.pending = [] ∧ _
    rcases turn.published with hright | ⟨hempty, hnext⟩ | ⟨hpending, hpublished, hkept⟩
    · exact .inl hright
    · have hself : (u.setCall call next).calls[call]? = some next :=
        State.setCall_self turn.calls_eq at_phase
      exact .inr ⟨hempty, .inl (List.countP_pos_iff.mpr ⟨_, List.mem_of_getElem? hself, hnext⟩)⟩
    · rw [hpending, hpublished]
      rcases hkept with ⟨hphase, hnext, huntouched⟩ | ⟨hphase, batch, rfl⟩
      · rw [hphase, hnext] at hcount
        refine h.published.imp_right (And.imp_right (Or.imp ?_ fun hlast => hlast.append huntouched))
        intro hpos
        exact Nat.lt_of_lt_of_eq hpos hcount.symm
      · -- the call had emptied the list, and the batch that it cut is dropped now
        cases phase with
        | sending batch' rest =>
          refine .inr ⟨h.emptied at_phase, .inr ⟨history, call, batch, [], rfl, rfl, rfl, rfl⟩⟩
        | _ => cases hphase

lemma step (h : Announced s history) (hlocked : Locked s) (move : Move s label t events) :
    Announced t (history ++ events) := by
  cases move with
  | begun request =>
    refine h.of_untouched rfl rfl ?_ State.sending_of_begun ⟨rfl, rfl, rfl⟩
    show (s.calls ++ [_]).countP _ = _
    rw [List.countP_append]
    rfl
  | call at_phase turn => exact h.of_call hlocked at_phase turn
  | @worker worker label w next u events at_point turn =>
    have hcalls : (u.setWorker worker next).calls = s.calls := turn.calls_eq
    refine h.of_untouched ?_ ?_ (by rw [hcalls]) (fun hcall => hcalls ▸ hcall) ?_
    · cases turn <;> rfl
    · cases turn <;> rfl
    · cases turn <;> simp [Untouched]
  | dispatcher turn =>
    refine h.of_untouched ?_ ?_ ?_ (State.sending_of_woken turn.calls_eq) ?_
    · cases turn <;> rfl
    · cases turn <;> rfl
    · rcases turn.calls_eq with hcalls | hcalls
      · rw [hcalls]
      · rw [hcalls]
        exact State.countP_wakeCalls isSending_wakeCall
    · cases turn <;> exact ⟨rfl, rfl, rfl⟩

end Announced

/-- In every run the length of the pending list is published, but for a list that was emptied and not
touched since. -/
theorem Runs.announced (hrun : Runs config labels s history) : Announced s history := by
  induction hrun with
  | start => exact ⟨fun hcall => rfl, .inl rfl⟩
  | step hrun hstep ih => exact ih.step hrun.locked (State.move_of_step hstep)

/-! ## Batches in flight -/

/-- Whether a worker executes a batch. -/
def Worker.isBusy (w : Worker α) : Bool :=
  w.execution?.isSome

/-- The batches in the queue, with a worker, among the results and in the callback. -/
def State.underway (s : State α) : Nat :=
  s.queue.length + s.workers.countP Worker.isBusy + s.results.length + s.dispatcher.inHand.length

/-- Where every entry of a list has one share or none, the shares are as many as the entries that
have one. -/
lemma length_flatMap_eq_countP {β γ : Type} {f : β → List γ} {p : β → Bool}
    (h : ∀ x, (f x).length = (p x).toNat) (l : List β) : (l.flatMap f).length = l.countP p := by
  induction l with
  | nil => rfl
  | cons x l ih =>
    rw [List.flatMap_cons, List.length_append, ih, h, List.countP_cons]
    cases p x <;> simp [Nat.add_comm]

lemma State.length_numbers_calls (s : State α) :
    (s.calls.flatMap Phase.numbers).length = s.calls.countP Phase.isSending :=
  length_flatMap_eq_countP (fun phase => by cases phase <;> rfl) s.calls

lemma State.length_numbers_workers (s : State α) :
    (s.workers.flatMap Worker.numbers).length = s.workers.countP Worker.isBusy :=
  length_flatMap_eq_countP (fun w => by cases w <;> rfl) s.workers

/-- The batches on their way are in the hand of a call or underway. -/
lemma State.length_afloat (s : State α) :
    s.afloat.length = s.underway + s.calls.countP Phase.isSending := by
  simp only [State.afloat, State.underway, List.length_append, List.length_map,
    s.length_numbers_calls, s.length_numbers_workers]
  omega

/-- Where no worker breaks down, the batches in flight are those underway, those in the hand of a
call, and those whose call was dropped. -/
theorem Runs.inFlight_eq_countP (hrun : Runs config labels s history)
    (hsound : ∀ label ∈ labels, label.isCrash = false) :
    s.inFlight = s.underway + s.calls.countP Phase.isSending +
      history.countP Event.isAbandoned := by
  rw [hrun.balanced.counted, hrun.length_lost hsound, State.length_afloat]
  omega

/-- Where the pending list is free, no call has a batch in hand. -/
lemma Runs.countP_of_free (hrun : Runs config labels s history) (hfree : s.lock = []) :
    s.calls.countP Phase.isSending = 0 := by
  rw [List.countP_eq_zero]
  intro phase hmem hsending
  obtain ⟨call, hcall⟩ := List.mem_iff_getElem?.mp hmem
  cases phase with
  | sending batch rest =>
    have hfirst := hrun.locked.sender_first hcall
    rw [hfree] at hfirst
    cases hfirst
  | _ => cases hsending

/-- **What the published numbers count**, where no worker breaks down. The flushes are right. The
batches in flight are those on their way and those whose call was dropped; so where the pending list
is free, the number is right just when no call was dropped with a batch in hand. The pending items
are right but for the time after such a call. And a flush waits in vain only for such a batch. -/
theorem Runs.counters (hvalid : config.validate = .ok ()) (hrun : Runs config labels s history)
    (hsound : ∀ label ∈ labels, label.isCrash = false) :
    s.drains = s.calls.countP Phase.isFlushing ∧
    s.inFlight = s.underway + s.calls.countP Phase.isSending +
      history.countP Event.isAbandoned ∧
    (s.published = s.pending.length ∨
      s.pending = [] ∧ (0 < s.calls.countP Phase.isSending ∨ AbandonedLast history)) ∧
    (s.lock = [] → (s.inFlight = s.underway ↔ history.any Event.isAbandoned = false) ∧
      (s.published = s.pending.length ∨ s.pending = [] ∧ AbandonedLast history)) ∧
    (∀ before call batch after, history = before ++ .abandoned call batch :: after →
      0 < s.inFlight ∧ ∀ other outcome, .flushed other outcome ∉ after) ∧
    (s.IsQuiet → history.any Event.isAbandoned = false →
      ∀ phase ∈ s.calls, (∃ outcome, phase = .returned outcome) ∨ phase = .dropped) := by
  have hflight := hrun.inFlight_eq_countP hsound
  have hpublished := hrun.announced.published
  have hnone : history.countP Event.isAbandoned = 0 ↔ history.any Event.isAbandoned = false := by
    rw [List.countP_eq_zero, List.any_eq_false]
  refine ⟨hrun.drains_eq, hflight, hpublished, ?_, ?_, ?_⟩
  · intro hfree
    have hhands := hrun.countP_of_free hfree
    constructor
    · rw [← hnone, hflight, hhands]
      omega
    · exact hpublished.imp_right (And.imp_right fun h => h.resolve_left (by omega))
  · intro before call batch after hhistory
    have hloses : (Event.abandoned call batch).numbersLost ≠ [] := by simp
    have hmem : .abandoned call batch ∈ history := by simp [hhistory]
    exact ⟨hrun.inFlight_pos_of_lost hmem hloses,
      fun other outcome => hrun.not_flushed_of_lost hhistory hloses⟩
  · intro hquiet hkept phase hmem
    obtain ⟨call, hcall⟩ := List.mem_iff_getElem?.mp hmem
    rcases hrun.phase_of_quiet hvalid hquiet hcall with hreturned | hdropped | ⟨-, hlost⟩
    · exact .inl hreturned
    · exact .inr hdropped
    · have hlength := hrun.length_lost hsound
      rw [hnone.mpr hkept] at hlength
      exact absurd (List.length_eq_zero_iff.mp hlength) hlost

/-! A call that is dropped while it waits for room in the queue, and a flush that comes after it. -/

def droppedLabels : List (Label Nat) :=
  [.begin (.enqueue [10, 11, 12, 13, 14]), .advance 0, .advance 0, .take 0, .advance 0,
    .begin (.enqueue [15]), .advance 1, .cancel 1, .begin .flush, .advance 2,
    .reply 0 (.ok [.success "a", .success "b"]), .receive, .finish, .take 0,
    .reply 0 (.ok [.success "c", .success "d"]), .receive, .finish, .advance 2]

def droppedBefore : List (Event Nat) :=
  [.began 0 (.enqueue [10, 11, 12, 13, 14]), .pushed 0 [10, 11], .formed 0 ⟨0, [10, 11]⟩,
    .pushed 0 [12, 13], .formed 0 ⟨1, [12, 13]⟩, .taken 0 ⟨0, [10, 11]⟩,
    .submitted 0 ⟨0, [10, 11]⟩, .pushed 0 [14], .returned 0 (.ok ()), .began 1 (.enqueue [15]),
    .pushed 1 [15], .formed 1 ⟨2, [14, 15]⟩]

def droppedAfter : List (Event Nat) :=
  let first : BatchResult := ⟨0, [.success "a", .success "b"], none, { attempts := 1 }⟩
  let second : BatchResult := ⟨1, [.success "c", .success "d"], none, { attempts := 1 }⟩
  [.began 2 .flush, .replied 0 ⟨0, [10, 11]⟩ (.ok first.items), .called first, .finished first,
    .taken 0 ⟨1, [12, 13]⟩, .submitted 0 ⟨1, [12, 13]⟩,
    .replied 0 ⟨1, [12, 13]⟩ (.ok second.items), .called second, .finished second]

/-- No batch is left, and the flush waits. -/
lemma runs_dropped : ∃ s, Runs .small droppedLabels s
    (droppedBefore ++ .abandoned 1 ⟨2, [14, 15]⟩ :: droppedAfter) ∧ s.lock = [] ∧
      s.underway = 0 ∧ s.inFlight = 1 ∧ s.pending = [] ∧ s.published = 1 :=
  ⟨_, Runs.of_run rfl, rfl, rfl, rfl, rfl, rfl⟩

lemma sound_dropped : ∀ label ∈ droppedLabels, label.isCrash = false := by
  simp [droppedLabels, Label.isCrash]

theorem counters_dropped :
    ∃ s history, BatcherConfig.small.validate = .ok () ∧ Runs .small droppedLabels s history ∧
      (∀ label ∈ droppedLabels, label.isCrash = false) ∧ s.lock = [] ∧
      s.inFlight ≠ s.underway ∧ s.pending = [] ∧ s.published = 1 ∧ AbandonedLast history ∧
      ∀ other outcome, .flushed other outcome ∉ droppedAfter := by
  obtain ⟨s, hrun, hfree, -, -, hpending, hpublished⟩ := runs_dropped
  obtain ⟨-, -, -, hright, hstuck, -⟩ := Runs.counters rfl hrun sound_dropped
  have hwrong : s.inFlight ≠ s.underway := by
    rw [ne_eq, (hright hfree).1]
    simp [droppedBefore, Event.isAbandoned]
  have hlast := (hright hfree).2.resolve_left (by simp [hpending, hpublished])
  exact ⟨s, _, rfl, hrun, sound_dropped, hfree, hwrong, hpending, hpublished, hlast.2,
    (hstuck _ _ _ _ rfl).2⟩

/-- Where calls are dropped, the published numbers are not always right. -/
theorem not_all_counted :
    ¬∀ (config : BatcherConfig) (labels : List (Label Nat)) (s : State Nat)
      (history : List (Event Nat)), config.validate = .ok () → Runs config labels s history →
        (∀ label ∈ labels, label.isCrash = false) → s.lock = [] →
          s.inFlight = s.underway ∧ s.published = s.pending.length ∧
            s.drains = s.calls.countP Phase.isFlushing := by
  intro h
  obtain ⟨s, hrun, hfree, hunderway, hflight, -⟩ := runs_dropped
  have hright := (h .small droppedLabels s _ rfl hrun sound_dropped hfree).1
  rw [hunderway, hflight] at hright
  cases hright

end BulkWrite.Batcher
