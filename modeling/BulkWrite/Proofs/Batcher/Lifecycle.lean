import BulkWrite.Proofs.Batcher.Counters
import BulkWrite.Proofs.Batcher.Formation

/-!
# What a batcher looks like from outside

A batcher shows its state by three published numbers. That of the flushes is always right, so the
batcher is draining just as long as some flush is not over and its call was not dropped. The other
two may lag behind what they count: while a call has a batch in hand, the list that it cut from is
still published. But then that batch is in flight, and the batcher shows this first. Main statement:
which state is shown (`Runs.lifecycle`).
-/

namespace BulkWrite.Batcher

open History

variable {α : Type} {config : BatcherConfig} {labels : List (Label α)} {s t u : State α}
  {history events : List (Event α)} {call : Nat} {label : Label α} {phase next : Phase α}

/-! ## Flushes that are not over -/

/-- A call has a flush before it just as long as its flush is not over and nobody dropped it. -/
lemma Runs.isFlushing_iff (hrun : Runs config labels s history)
    (hcall : s.calls[call]? = some phase) :
    phase.isFlushing = true ↔ (∃ closing, .began call (.ofFlush closing) ∈ history) ∧
      (∀ outcome, .flushed call outcome ∉ history) ∧ .cancel call ∉ labels := by
  rw [← hrun.dropped_iff, hcall, Option.some.injEq]
  constructor
  · intro hflushing
    obtain ⟨request, hbegan, hserves⟩ := hrun.asked.serves hcall
    refine ⟨?_, fun outcome => hrun.flushes.not_flushed hcall hflushing, ?_⟩
    · cases phase with
      | queued task =>
        cases task with
        | flush closing => exact ⟨closing, hserves.1 ▸ hbegan⟩
        | _ => cases hflushing
      | sending batch rest =>
        cases rest with
        | flush closing => exact ⟨closing, hserves.1 ▸ hbegan⟩
        | _ => cases hflushing
      | draining outcome closing parked woken => exact ⟨closing, hserves.1 ▸ hbegan⟩
      | _ => cases hflushing
    · rintro rfl
      cases hflushing
  · rintro ⟨⟨closing, hbegan⟩, hnone, hkept⟩
    by_contra hpast
    rcases hrun.flushes.exists_flushed hcall hbegan (by simpa using hpast) with
      hdropped | ⟨outcome, hover⟩
    · exact hkept hdropped
    · exact hnone outcome hover

/-! ## What is in flight -/

/-- A batch was formed, was not refused, and its callback is not over. -/
def Outstanding (batch : Batch α) (history : List (Event α)) : Prop :=
  batch ∈ formed history ∧
    (∀ call other, .refused call other ∈ history → other.sequence ≠ batch.sequence) ∧
    ∀ result, .finished result ∈ history → result.sequence ≠ batch.sequence

lemma outstanding_iff {batch : Batch α} :
    Outstanding batch history ↔ batch ∈ formed history ∧ batch.sequence ∉ settled history := by
  refine and_congr_right fun hformed => ?_
  rw [Projection.mem_iff]
  constructor
  · rintro ⟨hrefused, hfinished⟩ ⟨event, hevent, hnumber⟩
    cases event <;> simp at hnumber
    · exact hrefused _ _ hevent hnumber.symm
    · exact hfinished _ hevent hnumber.symm
  · intro hnone
    refine ⟨fun call other hevent heq => ?_, fun result hevent heq => ?_⟩
    · exact hnone ⟨_, hevent, by simp [heq]⟩
    · exact hnone ⟨_, hevent, by simp [heq]⟩

/-- Something is in flight as long as a batch is outstanding. -/
lemma Balanced.inFlight_pos_iff (h : Balanced s history) :
    0 < s.inFlight ↔ ∃ batch, Outstanding batch history := by
  simp only [outstanding_iff]
  have hnodup : (settled history ++ (lost history ++ s.afloat)).Nodup := by
    rw [← List.append_assoc, ← h.conserved.nodup_iff, h.numbered]
    exact List.nodup_range
  have hmem (n : Nat) : n ∈ numbers history ↔
      n ∈ settled history ∨ n ∈ lost history ++ s.afloat := by
    rw [h.conserved.mem_iff, List.append_assoc, List.mem_append]
  rw [h.counted, ← List.length_append]
  constructor
  · intro hpos
    obtain ⟨n, hn⟩ := List.exists_mem_of_length_pos hpos
    obtain ⟨batch, hbatch, rfl⟩ := List.mem_map.mp ((hmem n).mpr (.inr hn))
    exact ⟨batch, hbatch, fun hsettled => (List.disjoint_of_nodup_append hnodup) hsettled hn⟩
  · rintro ⟨batch, hbatch, hunsettled⟩
    have hnumber : batch.sequence ∈ numbers history := List.mem_map_of_mem hbatch
    exact List.length_pos_of_mem (((hmem _).mp hnumber).resolve_left hunsettled)

/-- Where nothing is in flight, the published length of the pending list is right. -/
lemma Runs.published_of_idle (hrun : Runs config labels s history) (hidle : s.inFlight = 0) :
    s.published = s.pending.length := by
  rcases hrun.announced.published with hright | ⟨-, hsending | hlast⟩
  · exact hright
  · -- a call with a batch in hand has it in flight
    have hafloat := s.length_afloat
    have hcounted := hrun.balanced.counted
    omega
  · obtain ⟨before, call, batch, after, rfl, -⟩ := hlast
    have habandoned : .abandoned call batch ∈ before ++ .abandoned call batch :: after := by simp
    have hpos := hrun.inFlight_pos_of_lost habandoned (by simp)
    omega

/-! ## What the numbers show -/

namespace State

lemma lifecycle_eq_draining_iff : s.lifecycle = .draining ↔ 0 < s.drains := by
  grind [lifecycle]

lemma lifecycle_eq_dispatching_iff :
    s.lifecycle = .dispatching ↔ s.drains = 0 ∧ 0 < s.inFlight := by
  grind [lifecycle]

lemma lifecycle_eq_accumulating_iff :
    s.lifecycle = .accumulating ↔ s.drains = 0 ∧ s.inFlight = 0 ∧ 0 < s.published := by
  grind [lifecycle]

lemma lifecycle_eq_idle_iff :
    s.lifecycle = .idle ↔ s.drains = 0 ∧ s.inFlight = 0 ∧ s.published = 0 := by
  grind [lifecycle]

end State

/-- A batcher is draining as long as a flush is not over and nobody dropped its call. -/
lemma Runs.draining_iff (hrun : Runs config labels s history) :
    s.lifecycle = .draining ↔
      ∃ call closing, .began call (.ofFlush closing) ∈ history ∧
        (∀ outcome, .flushed call outcome ∉ history) ∧ .cancel call ∉ labels := by
  rw [State.lifecycle_eq_draining_iff, hrun.drains_eq, List.countP_pos_iff]
  constructor
  · rintro ⟨phase, hmem, hflushing⟩
    obtain ⟨call, hcall⟩ := List.mem_iff_getElem?.mp hmem
    obtain ⟨⟨closing, hbegan⟩, hrest⟩ := (hrun.isFlushing_iff hcall).mp hflushing
    exact ⟨call, closing, hbegan, hrest⟩
  · rintro ⟨call, closing, hbegan, hrest⟩
    have hcall := List.getElem?_eq_getElem (hrun.asked.caller_lt hbegan rfl)
    exact ⟨_, List.getElem_mem _, (hrun.isFlushing_iff hcall).mpr ⟨⟨closing, hbegan⟩, hrest⟩⟩

/-! ## A call on its own -/

/-- All calls but one are over. -/
def State.Leaves (s : State α) (call : Nat) : Prop :=
  ∀ (other : Nat) (phase : Phase α), s.calls[other]? = some phase → other ≠ call → phase.IsOver

/-- As long as no call begins, the one that is left is the only one that does anything. -/
lemma Move.leaves (move : Move s label t events) (h : s.Leaves call)
    (hlabel : ∀ request, label ≠ .begin request) :
    t.Leaves call ∧ ∀ event ∈ events, ∀ other, event.caller = some other → other = call := by
  cases move with
  | begun request => exact absurd rfl (hlabel request)
  | @call mover label phase next u events at_phase turn =>
    -- all other calls are over and have no turn
    obtain rfl : mover = call := by
      by_contra hne
      exact turn.not_isOver (h mover phase at_phase hne)
    refine ⟨fun other phase hcall hne => ?_, fun event hevent other hcaller => ?_⟩
    · rcases State.phase_of_setCall turn.calls_eq hcall with ⟨heq, -⟩ | ⟨-, old, hold, hsame⟩
      · exact absurd heq hne
      · rw [State.iff_of_stayed Phase.IsOver isOver_wakeCall hsame]
        exact h other old hold hne
    · rw [turn.caller_eq event hevent] at hcaller
      exact (Option.some.inj hcaller).symm
  | worker at_point turn =>
    refine ⟨fun other phase hcall hne => h other phase (turn.calls_eq ▸ hcall) hne, ?_⟩
    intro event hevent other hcaller
    rw [turn.caller_eq event hevent] at hcaller
    cases hcaller
  | dispatcher turn =>
    refine ⟨fun other phase hcall hne => ?_, fun event hevent other hcaller => ?_⟩
    · rcases turn.calls_eq with hcalls | hcalls
      · exact h other phase (hcalls ▸ hcall) hne
      · rw [hcalls, List.getElem?_map] at hcall
        obtain ⟨old, hold, rfl⟩ := Option.map_eq_some_iff.mp hcall
        exact isOver_wakeCall.mpr (h other old hold hne)
    · rw [turn.caller_eq event hevent] at hcaller
      cases hcaller

/-- As long as no call begins, the one that is left is the only one that does anything. -/
lemma State.Leaves.of_run {more : List (Label α)} (h : s.Leaves call)
    (hrun : s.run more = some (t, events)) (hlabels : ∀ request, .begin request ∉ more) :
    t.Leaves call ∧ ∀ event ∈ events, ∀ other, event.caller = some other → other = call := by
  induction more generalizing s events with
  | nil =>
    obtain ⟨rfl, rfl⟩ := Prod.mk.inj (Option.some.inj hrun)
    exact ⟨h, by simp⟩
  | cons label more ih =>
    obtain ⟨⟨u, first⟩, hstep, hrun⟩ := Option.bind_eq_some_iff.mp hrun
    obtain ⟨⟨t', later⟩, hmore, hrun⟩ := Option.map_eq_some_iff.mp hrun
    obtain ⟨rfl, rfl⟩ := Prod.mk.inj hrun
    obtain ⟨hleaves, hfirst⟩ := (State.move_of_step hstep).leaves h fun request heq =>
      hlabels request (heq ▸ List.mem_cons_self)
    obtain ⟨hleaves, hlater⟩ := ih hleaves hmore fun request hmem =>
      hlabels request (List.mem_cons_of_mem _ hmem)
    refine ⟨hleaves, fun event hevent => ?_⟩
    rcases List.mem_append.mp hevent with hevent | hevent
    · exact hfirst event hevent
    · exact hlater event hevent

/-- When a flush is over, all batches are settled. -/
lemma Runs.settled_of_flushed {earlier later : List (Event α)} {outcome : CallOutcome}
    (hrun : Runs config labels s history)
    (h : history = earlier ++ .flushed call outcome :: later) {batch : Batch α}
    (hbatch : batch ∈ formed earlier) : batch.sequence ∈ settled earlier := by
  obtain ⟨before, u, past, label, v, first, rest, hpast, hstep, rfl⟩ := hrun.exists_step h
  obtain ⟨hidle, rfl⟩ := (State.move_of_step hstep).idle_of_flushed
  rw [List.append_nil] at hbatch ⊢
  by_contra hunsettled
  have hpos := hpast.balanced.inFlight_pos_iff.mpr
    ⟨batch, outstanding_iff.mpr ⟨hbatch, hunsettled⟩⟩
  omega

/-- Where all calls are over, no flush is published. -/
lemma Runs.drains_eq_zero (hrun : Runs config labels s history)
    (hover : ∀ phase ∈ s.calls, phase.IsOver) : s.drains = 0 := by
  rw [hrun.drains_eq, List.countP_eq_zero]
  intro phase hmem hflushing
  have hphase := hover phase hmem
  cases phase with
  | returned outcome | dropped => cases hflushing
  | _ => exact hphase

/-- When a flush has just returned without an error, and all other calls are over and have done
nothing since it began, the batcher is idle. -/
lemma Runs.idle_of_alone {before middle : List (Event α)} (hrun : Runs config labels s history)
    (hhistory : history = before ++ .began call .flush :: middle ++ [.returned call (.ok ())])
    (hleaves : s.Leaves call)
    (hmine : ∀ event ∈ middle, ∀ other, event.caller = some other → other = call) :
    s.lifecycle = .idle := by
  have hbegan : .began call .flush ∈ history := by simp [hhistory]
  have hreturned : .returned call (.ok ()) ∈ history := by simp [hhistory]
  have hcall := hrun.asked.phase_of_returned hreturned
  have hdrains : s.drains = 0 := by
    apply hrun.drains_eq_zero
    intro phase hmem
    obtain ⟨other, hother⟩ := List.mem_iff_getElem?.mp hmem
    by_cases heq : other = call
    · rw [heq, hcall] at hother
      obtain rfl := Option.some.inj hother
      trivial
    · exact hleaves other phase hother heq
  -- the flush was over at a moment at which nothing was in flight, and nothing was formed since
  have hidle : s.inFlight = 0 := by
    obtain ⟨past, hpast⟩ := hrun.flushed_of_returned (by simp) hhistory
    rw [hpast, List.append_assoc] at hhistory
    by_contra hbusy
    obtain ⟨batch, houtstanding⟩ :=
      hrun.balanced.inFlight_pos_iff.mp (Nat.pos_of_ne_zero hbusy)
    obtain ⟨hbatch, hunsettled⟩ := outstanding_iff.mp houtstanding
    have hformed : batch ∈ formed past := by simpa [hhistory] using hbatch
    exact hunsettled (by simp [hhistory, hrun.settled_of_flushed hhistory hformed])
  rw [List.append_assoc, List.cons_append] at hhistory
  -- a flush pushes nothing itself, and nobody else did anything
  have hpushed : pushes (middle ++ [.returned call (.ok ())]) = [] := by
    apply pushes_eq_nil
    intro other
    by_cases heq : other = call
    · have hnone : pushedBy call history = [] := hrun.serves hbegan hcall
      rw [hhistory, Projection.append, Projection.cons, List.append_eq_nil_iff,
        List.append_eq_nil_iff] at hnone
      rw [heq, hnone.2.2]
    · apply pushedBy_of_caller
      intro event hevent hcaller
      rcases List.mem_append.mp hevent with hevent | hevent
      · exact heq (hmine event hevent other hcaller)
      · rw [List.mem_singleton.mp hevent] at hcaller
        exact heq (Option.some.inj hcaller).symm
  have hpending : s.pending = [] := by
    have hsuffix := hrun.pending_suffix hhistory hcall (by simp [Phase.HasCut])
    rwa [pushed, hpushed, List.map_nil, List.suffix_nil] at hsuffix
  rw [State.lifecycle_eq_idle_iff, hrun.published_of_idle hidle, hpending]
  exact ⟨hdrains, hidle, rfl⟩

/-! ## Main statement -/

/-- **The state that is shown.** A batcher is draining as long as some flush is not over and nobody
dropped its call; else dispatching as long as some batch is outstanding; else accumulating as long as
something is pending; and else idle. When a flush returns without an error, and all other calls were
over when it began and none has begun since, the batcher is idle. -/
theorem Runs.lifecycle (hrun : Runs config labels s history) :
    (s.lifecycle = .draining ↔
      ∃ call closing, .began call (.ofFlush closing) ∈ history ∧
        (∀ outcome, .flushed call outcome ∉ history) ∧ .cancel call ∉ labels) ∧
    (s.lifecycle ≠ .draining →
      (s.lifecycle = .dispatching ↔ ∃ batch, Outstanding batch history) ∧
      (s.lifecycle ≠ .dispatching →
        (s.lifecycle = .accumulating ↔ s.pending ≠ []) ∧
        (s.lifecycle ≠ .accumulating → s.lifecycle = .idle))) ∧
    (∀ more t events, (∀ phase ∈ s.calls, phase.IsOver) →
      s.run (.begin .flush :: more) =
        some (t, events ++ [.returned s.calls.length (.ok ())]) →
      (∀ request, .begin request ∉ more) → t.lifecycle = .idle) := by
  refine ⟨hrun.draining_iff, fun hcalm => ?_, fun more t events hover hflush hlabels => ?_⟩
  · rw [ne_eq, State.lifecycle_eq_draining_iff, Nat.not_lt, Nat.le_zero] at hcalm
    simp only [ne_eq, State.lifecycle_eq_dispatching_iff, State.lifecycle_eq_accumulating_iff,
      State.lifecycle_eq_idle_iff, ← hrun.balanced.inFlight_pos_iff]
    refine ⟨and_iff_right hcalm, fun hnone => ?_⟩
    have hidle : s.inFlight = 0 := by
      by_contra hbusy
      exact hnone ⟨hcalm, Nat.pos_of_ne_zero hbusy⟩
    -- with nothing in flight the published number of items is the true one
    have hpublished := hrun.published_of_idle hidle
    rw [hpublished, List.length_pos_iff]
    refine ⟨⟨fun h => h.2.2, fun hpending => ⟨hcalm, hidle, hpending⟩⟩, fun hempty => ?_⟩
    exact ⟨hcalm, hidle, List.length_eq_zero_iff.mpr (by simpa [hcalm, hidle] using hempty)⟩
  · have hall := hrun.append hflush
    obtain ⟨⟨u, first⟩, hbegin, hflush⟩ := Option.bind_eq_some_iff.mp hflush
    obtain ⟨⟨t', later⟩, hmore, heq⟩ := Option.map_eq_some_iff.mp hflush
    obtain ⟨rfl, hlater⟩ := Prod.mk.inj heq
    obtain ⟨rfl, rfl⟩ := Prod.mk.inj (Option.some.inj hbegin)
    -- all calls but the flush were over when it began, and stay so
    have hleaves : (s.begin .flush).Leaves s.calls.length := by
      intro other phase hcall hne
      rw [State.begin_eq] at hcall
      rcases State.phase_of_begun hcall with hold | ⟨heq, -⟩
      · exact hover phase (List.mem_of_getElem? hold)
      · exact absurd heq hne
    obtain ⟨hleaves, hmine⟩ := hleaves.of_run hmore hlabels
    cases events with
    | nil => simp at hlater
    | cons event middle =>
      obtain ⟨rfl, rfl⟩ := List.cons.inj hlater
      rw [← List.append_assoc] at hall
      exact hall.idle_of_alone rfl hleaves fun event hevent =>
        hmine event (List.mem_append_left _ hevent)

/-! A call that waits for room while the list that it emptied is still published, and then a flush
of what it left. -/

def shownLabels : List (Label Nat) :=
  [.begin (.enqueue [10]), .advance 0, .begin (.enqueue [11, 12]), .advance 1]

def shownEvents : List (Event Nat) :=
  [.began 0 (.enqueue [10]), .pushed 0 [10], .returned 0 (.ok ()), .began 1 (.enqueue [11, 12]),
    .pushed 1 [11], .formed 1 ⟨0, [10, 11]⟩]

def restedLabels : List (Label Nat) :=
  [.advance 1, .take 0, .reply 0 (.ok [.success "a", .success "b"]), .receive, .finish, .wake]

def restedEvents : List (Event Nat) :=
  let result : BatchResult := ⟨0, [.success "a", .success "b"], none, { attempts := 1 }⟩
  [.pushed 1 [12], .returned 1 (.ok ()), .taken 0 ⟨0, [10, 11]⟩, .submitted 0 ⟨0, [10, 11]⟩,
    .replied 0 ⟨0, [10, 11]⟩ (.ok result.items), .called result, .finished result]

def aloneLabels : List (Label Nat) :=
  [.advance 2, .advance 2, .take 0, .reply 0 (.ok [.success "c"]), .receive, .finish, .advance 2]

def aloneEvents : List (Event Nat) :=
  let result : BatchResult := ⟨1, [.success "c"], none, { attempts := 1 }⟩
  [.began 2 .flush, .formed 2 ⟨1, [12]⟩, .taken 0 ⟨1, [12]⟩, .submitted 0 ⟨1, [12]⟩,
    .replied 0 ⟨1, [12]⟩ (.ok result.items), .called result, .finished result,
    .flushed 2 (.ok ())]

theorem lifecycle_shown :
    ∃ s t u, Runs .small shownLabels s shownEvents ∧ s.pending = [] ∧ s.published = 1 ∧
      s.lifecycle = .dispatching ∧
      Runs .small (shownLabels ++ restedLabels) t (shownEvents ++ restedEvents) ∧
      t.lifecycle = .accumulating ∧
      t.run (.begin .flush :: aloneLabels) = some (u, aloneEvents ++ [.returned 2 (.ok ())]) ∧
      u.lifecycle = .idle := by
  have hshown : Runs .small shownLabels _ shownEvents := Runs.of_run rfl
  have hrested : Runs .small (shownLabels ++ restedLabels) _ (shownEvents ++ restedEvents) :=
    hshown.append rfl
  obtain ⟨-, hbusy, -⟩ := hshown.lifecycle
  obtain ⟨-, hpending, halone⟩ := hrested.lifecycle
  have hdispatching := (hbusy (by decide)).1.mpr
    ⟨⟨0, [10, 11]⟩, by simp [Outstanding, shownEvents]⟩
  have haccumulating := ((hpending (by decide)).2 (by decide)).1.mpr (List.cons_ne_nil 12 [])
  have hover (phase : Phase Nat) (h : phase ∈ [.returned (.ok ()), .returned (.ok ())]) :
      phase.IsOver := by
    simp at h
    rw [h]
    trivial
  have hidle := halone aloneLabels _ aloneEvents hover rfl (by simp [aloneLabels])
  exact ⟨_, _, _, hshown, rfl, rfl, hdispatching, hrested, haccumulating, rfl, hidle⟩

end BulkWrite.Batcher
