import BulkWrite.Proofs.Batcher.Cut
import BulkWrite.Proofs.Batcher.Lifecycle

/-!
# What is published while a call waits

The length of the pending list is published when a call is done with the list, not when it cuts a
batch from it. So while a call waits for room in the queue, with a batch in hand, the list is empty,
and what is published is the number of items that the call found there when it got the list: the
batches that it has cut since hold

`items found ++ items pushed by the call`

in this order (`Runs.exists_found`). Main statement, for runs in which no call is dropped: the
published number is right just in the states in which no call has a batch in hand that holds items
of others (`Runs.reported`). A flush pushes nothing, so while it waits the number is wrong. Hence it
is not right in all states (`not_all_reported`).
-/

namespace BulkWrite.Batcher

open History

variable {α : Type} {config : BatcherConfig} {labels : List (Label α)} {s t u : State α}
  {history events : List (Event α)} {call other : Nat} {label : Label α} {phase next : Phase α}
  {batch : Batch α} {rest : Rest α}

/-! ## Where no call has a batch in hand -/

/-- A published number that is wrong is that of a call with a batch in hand. -/
lemma Runs.published_of_free (hrun : Runs config labels s history)
    (hkept : ∀ label ∈ labels, label.isCancel = false)
    (hfree : ∀ (call : Nat) (batch : Batch α) (rest : Rest α),
      s.calls[call]? ≠ some (.sending batch rest)) :
    s.published = s.pending.length := by
  rcases hrun.announced.published with hright | ⟨-, hsending | hlast⟩
  · exact hright
  · obtain ⟨phase, hmem, hphase⟩ := List.countP_pos_iff.mp hsending
    obtain ⟨call, hcall⟩ := List.mem_iff_getElem?.mp hmem
    cases phase with
    | sending batch rest => exact absurd hcall (hfree call batch rest)
    | _ => cases hphase
  · -- no call was dropped, so none was dropped with a batch in hand
    obtain ⟨before, call, batch, after, rfl, -⟩ := hlast
    have hnone := hrun.not_abandoned hkept
    rw [List.any_append, List.any_cons] at hnone
    simp [Event.isAbandoned] at hnone

/-- Whoever gets the list finds its length published. -/
lemma Runs.published_of_holds (hrun : Runs config labels s history)
    (hkept : ∀ label ∈ labels, label.isCancel = false) {task : Task α}
    (at_phase : s.calls[call]? = some (.queued task)) (holds : s.holds call) :
    s.published = s.pending.length := by
  refine hrun.published_of_free hkept fun other batch rest hother => ?_
  by_cases heq : other = call
  · rw [heq, at_phase] at hother
    cases hother
  · exact hrun.locked.not_sending_of_holds holds heq hother

/-! ## What a call found in the list -/

/-- A call that waits to begin with its items, or its flush, has cut nothing. -/
lemma Runs.formedBy_of_queued (hrun : Runs config labels s history) {task : Task α}
    (hcall : s.calls[call]? = some (.queued task)) (htask : task ≠ .close) :
    formedBy call history = [] := by
  induction hrun with
  | start => rfl
  | @step labels s t label history events hrun hstep ih =>
    rw [Projection.append]
    cases (State.move_of_step hstep).phaseChange hcall with
    | begun request new events_eq phase_eq =>
      subst new events_eq
      rw [formedBy_of_caller hrun.asked.caller_ne]
      rfl
    | turned at_phase turn state_eq =>
      -- a call comes back to the list only to close the queue
      cases turn
      exact absurd rfl htask
    | stayed at_phase same others =>
      have hold := (State.iff_of_stayed (· = .queued task) State.wakeCall_eq_queued same).mp rfl
      rw [formedBy_of_caller others, ih (hold ▸ at_phase)]
      rfl

/-- Nobody publishes anything while another call has a batch in hand. -/
lemma CallTurn.published_of_sending (hlocked : Locked s) (at_phase : s.calls[call]? = some phase)
    (turn : CallTurn s call label phase next u events) (hne : other ≠ call)
    (hother : s.calls[other]? = some (.sending batch rest)) : u.published = s.published := by
  cases turn with
  | pushed pushing | filled pushing =>
    exact absurd hother (hlocked.not_sending_of_pushing at_phase pushing hne)
  | discarded holds => exact absurd hother (hlocked.not_sending_of_holds holds hne)
  | refusedPush | refusedFlush | sent =>
    exact absurd (hlocked.sender_unique hother at_phase) hne
  | _ => rfl

/-- What the call with a batch in hand found in the pending list is still published. -/
structure Found (s : State α) (history : List (Event α)) (call : Nat) (batch : Batch α)
    (found : List α) : Prop where
  /-- The batch in hand is the last one that the call cut. -/
  last : ∃ earlier, formedBy call history = earlier ++ [batch]
  /-- The batches hold what the call found and then its own items. -/
  split : (formedBy call history).flatMap Batch.items = found ++ pushedBy call history
  published : s.published = found.length
  short : found.length < s.config.batchSize.toNat

/-- What others do changes none of this. -/
lemma Found.append {found : List α} (h : Found s history call batch found)
    (hpublished : t.published = s.published) (hconfig : t.config = s.config)
    (hothers : ∀ event ∈ events, event.caller ≠ some call) :
    Found t (history ++ events) call batch found := by
  have hformed : formedBy call (history ++ events) = formedBy call history := by
    rw [Projection.append, formedBy_of_caller hothers, List.append_nil]
  have hpushed : pushedBy call (history ++ events) = pushedBy call history := by
    rw [Projection.append, pushedBy_of_caller hothers, List.append_nil]
  constructor
  case last =>
    rw [hformed]
    exact h.last
  case split =>
    rw [hformed, hpushed]
    exact h.split
  case published =>
    rw [hpublished]
    exact h.published
  case short =>
    rw [hconfig]
    exact h.short

/-- A call that gets the list and cuts a batch from it found what was pending. -/
lemma Found.of_list (hpublished : s.published = s.pending.length)
    (hshort : s.pending.length < s.config.batchSize.toNat) (hformed : formedBy call history = [])
    (hpushed : pushedBy call history = []) (hbatch : formedBy call events = [batch])
    (hitems : batch.items = s.pending ++ pushedBy call events) (hsame : t.published = s.published)
    (hconfig : t.config = s.config) : Found t (history ++ events) call batch s.pending := by
  constructor
  case last =>
    exact ⟨[], by rw [Projection.append, hformed, hbatch]⟩
  case split =>
    rw [Projection.append, Projection.append, hformed, hpushed, hbatch]
    simpa using hitems
  case published =>
    rw [hsame, hpublished]
  case short =>
    rw [hconfig]
    exact hshort

/-- A call that cuts one more batch from the list, which it has emptied, fills it with items of its
own. -/
lemma Found.again {found : List α} {batch' : Batch α} (h : Found s history call batch found)
    (hbatch : formedBy call events = [batch']) (hitems : batch'.items = pushedBy call events)
    (hsame : t.published = s.published) (hconfig : t.config = s.config) :
    Found t (history ++ events) call batch' found := by
  constructor
  case last =>
    exact ⟨formedBy call history, by rw [Projection.append, hbatch]⟩
  case split =>
    rw [Projection.append, Projection.append, List.flatMap_append, h.split, hbatch]
    simp [hitems]
  case published =>
    rw [hsame, h.published]
  case short =>
    rw [hconfig]
    exact h.short

/-- A turn that ends with a batch in hand has cut it, in a push or in a flush: from what the call
finds in the list at first, and from its own items once it has a batch in hand. -/
lemma Runs.found_of_turn (hvalid : config.validate = .ok ()) (hrun : Runs config labels s history)
    (hkept : ∀ label ∈ labels, label.isCancel = false) (at_phase : s.calls[call]? = some phase)
    (turn : CallTurn s call label phase (.sending batch rest) u events)
    (hagain : ∀ batch' rest', phase = .sending batch' rest' →
      ∃ found, Found s history call batch' found) :
    ∃ found, Found (u.setCall call (.sending batch rest)) (history ++ events) call batch found := by
  have hconfig : (u.setCall call (.sending batch rest)).config = s.config :=
    (Move.call at_phase turn).config_eq
  have hshort : s.pending.length < s.config.batchSize.toNat := by
    rw [hrun.config_eq]
    exact hrun.short hvalid
  obtain ⟨request, -, hserves⟩ := hrun.asked.serves at_phase
  cases turn with
  | filled pushing full =>
    cases pushing with
    | entered holds isOpen =>
      exact ⟨s.pending, .of_list (hrun.published_of_holds hkept at_phase holds) hshort
        (hrun.formedBy_of_queued at_phase (by simp)) hserves.2 (by simp)
        (by simp) rfl hconfig⟩
    | sent served room =>
      obtain ⟨found, hfound⟩ := hagain _ _ rfl
      have hempty := hrun.announced.emptied at_phase
      exact ⟨found, hfound.again (by simp)
        (by simp [hempty]) rfl hconfig⟩
  | cut holds isOpen nonempty =>
    exact ⟨s.pending, .of_list (hrun.published_of_holds hkept at_phase holds) hshort
      (hrun.formedBy_of_queued at_phase (by simp)) hserves.2 (by simp)
      (by simp) rfl hconfig⟩

/-- In every run without dropped calls, what is published while a call has a batch in hand is what
it found in the pending list. -/
theorem Runs.exists_found (hvalid : config.validate = .ok ()) (hrun : Runs config labels s history)
    (hkept : ∀ label ∈ labels, label.isCancel = false)
    (hcall : s.calls[call]? = some (.sending batch rest)) :
    ∃ found, Found s history call batch found := by
  induction hrun generalizing call batch rest with
  | start => simp [State.initial] at hcall
  | @step labels s t label history events hrun hstep ih =>
    have hbefore : ∀ label ∈ labels, label.isCancel = false :=
      fun label hlabel => hkept label (List.mem_append_left _ hlabel)
    have hconfig := (State.move_of_step hstep).config_eq
    cases State.move_of_step hstep with
    | begun request =>
      have hold := State.sending_of_begun hcall
      obtain ⟨found, hfound⟩ := ih hbefore hold
      have hlt := (List.getElem?_eq_some_iff.mp hold).1
      refine ⟨found, hfound.append rfl hconfig ?_⟩
      simp only [List.mem_singleton, forall_eq, Event.caller, ne_eq, Option.some.injEq]
      omega
    | @call mover label phase next u events at_phase turn =>
      -- the turn was that of the call itself, or of another one, which does not hold the list
      rcases State.sending_of_setCall turn.calls_eq hcall with ⟨rfl, rfl⟩ | ⟨hne, hold⟩
      · refine hrun.found_of_turn hvalid hbefore at_phase turn fun batch' rest' heq => ?_
        exact ih hbefore (heq ▸ at_phase)
      · obtain ⟨found, hfound⟩ := ih hbefore hold
        have hpublished := turn.published_of_sending hrun.locked at_phase hne hold
        exact ⟨found, hfound.append hpublished hconfig (turn.caller_ne hne)⟩
    | @worker worker label w next u events at_point turn =>
      obtain ⟨found, hfound⟩ := ih hbefore (turn.calls_eq ▸ hcall)
      refine ⟨found, hfound.append ?_ hconfig fun event hevent => ?_⟩
      · cases turn <;> rfl
      · rw [turn.caller_eq event hevent]
        exact (Option.some_ne_none _).symm
    | dispatcher turn =>
      obtain ⟨found, hfound⟩ := ih hbefore (State.sending_of_woken turn.calls_eq hcall)
      refine ⟨found, hfound.append ?_ hconfig fun event hevent => ?_⟩
      · cases turn <;> rfl
      · rw [turn.caller_eq event hevent]
        exact (Option.some_ne_none _).symm

/-- A flush found its batch in the list. -/
lemma Found.of_flush {found : List α} {closing : Bool} (h : Found s history call batch found)
    (hvalid : config.validate = .ok ()) (hrun : Runs config labels s history)
    (hcall : s.calls[call]? = some (.sending batch (.flush closing))) :
    found = batch.items ∧ found ≠ [] := by
  obtain ⟨request, hbegan, rfl, hnone⟩ := hrun.asked.serves hcall
  obtain ⟨earlier, hlast⟩ := h.last
  -- it cuts no other batch and pushes no items
  have honce := hrun.length_formedBy_le hbegan (by cases closing <;> nofun) hcall
  rw [hlast, List.length_append, List.length_singleton] at honce
  obtain rfl : earlier = [] := List.length_eq_zero_iff.mp (by omega)
  have hsplit := h.split
  rw [hlast, hnone, List.append_nil] at hsplit
  obtain rfl : batch.items = found := by simpa using hsplit
  have hformed : batch ∈ formed history :=
    hrun.inOrder.waiting hcall |>.subset (List.mem_append_right _ List.mem_cons_self)
  exact ⟨rfl, hrun.items_ne_nil hvalid hformed⟩

/-- A batch in the hand of a call counts as in flight. -/
lemma Runs.inFlight_pos_of_sending (hrun : Runs config labels s history)
    (hcall : s.calls[call]? = some (.sending batch rest)) : 0 < s.inFlight := by
  have hsending : 0 < s.calls.countP Phase.isSending :=
    List.countP_pos_iff.mpr ⟨_, List.mem_of_getElem? hcall, rfl⟩
  have hafloat := s.length_afloat
  have hcounted := hrun.balanced.counted
  omega

/-! ## Main statement -/

/-- **What is published of the pending list**, in every state of every run without dropped calls.
Where no call has a batch in hand, it is the length of the list. Where a call has one, the list is
empty, the batch is in flight, and the number is that of the items that the call found in the list
and that are now in its batches, in front of its own; a flush found all of its batch. So the number
is right just where no call has cut items that it did not push itself. -/
theorem Runs.reported (hvalid : config.validate = .ok ()) (hrun : Runs config labels s history)
    (hkept : ∀ label ∈ labels, label.isCancel = false) :
    ((∀ (call : Nat) (batch : Batch α) (rest : Rest α),
      s.calls[call]? ≠ some (.sending batch rest)) → s.published = s.pending.length) ∧
    (∀ (call : Nat) (batch : Batch α) (rest : Rest α),
      s.calls[call]? = some (.sending batch rest) → s.pending = [] ∧ 0 < s.inFlight ∧
        ∃ found, (formedBy call history).flatMap Batch.items = found ++ pushedBy call history ∧
          s.published = found.length ∧ found.length < config.batchSize.toNat ∧
          ∀ closing, rest = .flush closing → found = batch.items ∧ found ≠ []) ∧
    (s.published = s.pending.length ↔ ∀ (call : Nat) (batch : Batch α) (rest : Rest α),
      s.calls[call]? = some (.sending batch rest) →
        (formedBy call history).flatMap Batch.items = pushedBy call history) := by
  refine ⟨hrun.published_of_free hkept, ?_, ?_, ?_⟩
  · intro call batch rest hcall
    obtain ⟨found, hfound⟩ := hrun.exists_found hvalid hkept hcall
    refine ⟨hrun.announced.emptied hcall, hrun.inFlight_pos_of_sending hcall, found, hfound.split,
      hfound.published, hrun.config_eq ▸ hfound.short, ?_⟩
    rintro closing rfl
    exact hfound.of_flush hvalid hrun hcall
  · intro hright call batch rest hcall
    obtain ⟨found, hfound⟩ := hrun.exists_found hvalid hkept hcall
    rw [hfound.published, hrun.announced.emptied hcall] at hright
    rw [hfound.split, List.length_eq_zero_iff.mp hright, List.nil_append]
  · intro hown
    by_cases hfree : ∃ (call : Nat) (batch : Batch α) (rest : Rest α),
      s.calls[call]? = some (.sending batch rest)
    · obtain ⟨call, batch, rest, hcall⟩ := hfree
      obtain ⟨found, hfound⟩ := hrun.exists_found hvalid hkept hcall
      have hsplit := hfound.split
      rw [hown call batch rest hcall, List.self_eq_append_left] at hsplit
      rw [hfound.published, hsplit, hrun.announced.emptied hcall]
    · refine hrun.published_of_free hkept fun call batch rest hcall => ?_
      exact hfree ⟨call, batch, rest, hcall⟩

/-! A call that waits for room in the queue with a batch of two items, of which it found one. -/

def heldLabels : List (Label Nat) :=
  [.begin (.enqueue [10, 11, 12, 13, 14]), .advance 0, .advance 0, .take 0, .advance 0,
    .begin (.enqueue [15]), .advance 1]

lemma runs_held : ∃ s, Runs .small heldLabels s droppedBefore ∧
    s.calls[1]? = some (.sending ⟨2, [14, 15]⟩ (.enqueue [])) ∧ s.pending = [] ∧
      s.published = 1 :=
  ⟨_, Runs.of_run rfl, rfl, rfl, rfl⟩

lemma kept_held : ∀ label ∈ heldLabels, label.isCancel = false := by
  simp [heldLabels, Label.isCancel]

theorem reported_held :
    ∃ s : State Nat, BatcherConfig.small.validate = .ok () ∧
      Runs .small heldLabels s droppedBefore ∧ (∀ label ∈ heldLabels, label.isCancel = false) ∧
      s.published = 1 ∧ 0 < s.inFlight ∧ s.published ≠ s.pending.length := by
  obtain ⟨s, hrun, hcall, -, hpublished⟩ := runs_held
  obtain ⟨-, hwaits, hright⟩ := Runs.reported rfl hrun kept_held
  have hwrong : s.published ≠ s.pending.length := by
    rw [ne_eq, hright]
    intro hown
    have hitems : [14, 15] = [15] := hown 1 _ _ hcall
    cases hitems
  exact ⟨s, rfl, hrun, kept_held, hpublished, (hwaits 1 _ _ hcall).2.1, hwrong⟩

/-- The published number is not right in all states, though no call is dropped. -/
theorem not_all_reported :
    ¬∀ (config : BatcherConfig) (labels : List (Label Nat)) (s : State Nat)
      (history : List (Event Nat)), config.validate = .ok () → Runs config labels s history →
        (∀ label ∈ labels, label.isCancel = false) → s.published = s.pending.length := by
  intro h
  obtain ⟨s, hrun, -, hpending, hpublished⟩ := runs_held
  have hright := h .small heldLabels s droppedBefore rfl hrun kept_held
  rw [hpending, hpublished] at hright
  cases hright

end BulkWrite.Batcher
