import Mathlib.Data.List.Basic
import Mathlib.Tactic.Simps.Basic
import BulkWrite.Batcher.Step

/-!
# Histories

What a history tells about batches, items and results, as lists in the order of the events. A
history is the list of the events of a run; `State.run` takes a batcher through given labels, and
the states and histories that it gives are those of `Runs` (`Runs.of_run`).
-/

namespace BulkWrite.Batcher

variable {α : Type}

namespace Event

/-- The batch that was formed, if any. -/
@[simp]
def batchFormed : Event α → List (Batch α)
  | .formed _ batch => [batch]
  | _ => []

/-- The batch that the given call formed, if any. -/
@[simp]
def batchFormedBy (call : Nat) : Event α → List (Batch α)
  | .formed other batch => if other = call then [batch] else []
  | _ => []

/-- The batch that a worker took, if any. -/
@[simp]
def batchTaken : Event α → List (Batch α)
  | .taken _ batch => [batch]
  | _ => []

/-- The batch whose submission broke a worker down, if any. -/
@[simp]
def batchBroken : Event α → List (Batch α)
  | .broken _ batch => [batch]
  | _ => []

/-- The items that were pushed, each one with the call that pushed it. -/
@[simp]
def itemsPushed : Event α → List (Nat × α)
  | .pushed call items => items.map (call, ·)
  | _ => []

/-- The items that the given call pushed, if any. -/
@[simp]
def itemsPushedBy (call : Nat) : Event α → List α
  | .pushed other items => if other = call then items else []
  | _ => []

/-- The items that a flush of a closed batcher dropped, if any. -/
@[simp]
def itemsDiscarded : Event α → List α
  | .discarded _ items => items
  | _ => []

/-- The result that was called back, if any. -/
@[simp]
def resultCalled : Event α → List BatchResult
  | .called result => [result]
  | _ => []

/-- The result whose callback was over, if any. -/
@[simp]
def resultFinished : Event α → List BatchResult
  | .finished result => [result]
  | _ => []

/-- The reply to a submission of the batch of the given number, if any. -/
@[simp]
def repliesTo (number : Nat) : Event α → List Reply
  | .replied _ batch reply => if batch.sequence = number then [reply] else []
  | _ => []

/-- The batch that is no longer in flight, if any: its callback was over, or it was refused. -/
@[simp]
def numbersSettled : Event α → List Nat
  | .finished result => [result.sequence]
  | .refused _ batch => [batch.sequence]
  | _ => []

/-- The batch that stays in flight for ever, if any: its call was dropped, its worker broke down,
or no worker was left to take it. -/
@[simp]
def numbersLost : Event α → List Nat
  | .abandoned _ batch | .broken _ batch | .stranded batch => [batch.sequence]
  | _ => []

/-- Whether a batch found no worker that could take it. -/
def isUnserved : Event α → Bool
  | .refused _ _ | .stranded _ => true
  | _ => false

/-- Whether a call was dropped that had a batch in hand. -/
def isAbandoned : Event α → Bool
  | .abandoned _ _ => true
  | _ => false

/-- The call that brought the event about, if any. -/
def caller : Event α → Option Nat
  | .began call _ | .pushed call _ | .formed call _ | .refused call _ | .abandoned call _
  | .discarded call _ | .flushed call _ | .closed call _ | .collected call
  | .returned call _ => some call
  | _ => none

end Event

namespace History

/-- What a history tells about one matter: what each of its events adds to a list. -/
structure Projection (α β : Type) where
  ofEvent : Event α → List β

namespace Projection

variable {β : Type} (projection : Projection α β)

def ofHistory (history : List (Event α)) : List β :=
  history.flatMap projection.ofEvent

instance : CoeFun (Projection α β) fun _ => List (Event α) → List β := ⟨ofHistory⟩

@[simp]
lemma nil : projection [] = [] := rfl

@[simp]
lemma cons (event : Event α) (history : List (Event α)) :
    projection (event :: history) = projection.ofEvent event ++ projection history := rfl

@[simp]
lemma append (history later : List (Event α)) :
    projection (history ++ later) = projection history ++ projection later :=
  List.flatMap_append

lemma mem_iff {history : List (Event α)} {x : β} :
    x ∈ projection history ↔ ∃ event ∈ history, x ∈ projection.ofEvent event :=
  List.mem_flatMap

lemma eq_nil_iff {history : List (Event α)} :
    projection history = [] ↔ ∀ event ∈ history, projection.ofEvent event = [] :=
  List.flatMap_eq_nil_iff

/-- The batches that the last worker leaves in the queue are lost, and nothing else happens. -/
@[simp]
lemma stranded (h : ∀ batch, projection.ofEvent (.stranded batch) = []) (queue : List (Batch α)) :
    projection (queue.map .stranded) = [] := by
  simp only [eq_nil_iff, List.forall_mem_map]
  exact fun batch _ => h batch

end Projection

/-- The batches that were formed. -/
@[simps]
def formed : Projection α (Batch α) := ⟨Event.batchFormed⟩

/-- The batches that the given call formed. -/
@[simps]
def formedBy (call : Nat) : Projection α (Batch α) := ⟨Event.batchFormedBy call⟩

/-- The batches that workers took. -/
@[simps]
def taken : Projection α (Batch α) := ⟨Event.batchTaken⟩

/-- The batches whose submission broke a worker down. -/
@[simps]
def broken : Projection α (Batch α) := ⟨Event.batchBroken⟩

/-- The items that were pushed, each one with the call that pushed it. -/
@[simps]
def pushes : Projection α (Nat × α) := ⟨Event.itemsPushed⟩

/-- The items that the given call pushed. -/
@[simps]
def pushedBy (call : Nat) : Projection α α := ⟨Event.itemsPushedBy call⟩

/-- The items that flushes of a closed batcher dropped. -/
@[simps]
def discarded : Projection α α := ⟨Event.itemsDiscarded⟩

/-- The results that were called back. -/
@[simps]
def called : Projection α BatchResult := ⟨Event.resultCalled⟩

/-- The results whose callback was over. -/
@[simps]
def finished : Projection α BatchResult := ⟨Event.resultFinished⟩

/-- The replies to the submissions of the batch of the given number. -/
@[simps]
def replies (number : Nat) : Projection α Reply := ⟨Event.repliesTo number⟩

/-- The numbers of the batches that are no longer in flight. -/
@[simps]
def settled : Projection α Nat := ⟨Event.numbersSettled⟩

/-- The numbers of the batches that stay in flight for ever. -/
@[simps]
def lost : Projection α Nat := ⟨Event.numbersLost⟩

variable {event : Event α} {history later : List (Event α)}

/-- The numbers of the batches that were formed. -/
def numbers (history : List (Event α)) : List Nat :=
  (formed history).map Batch.sequence

/-- The items that were pushed. -/
def pushed (history : List (Event α)) : List α :=
  (pushes history).map Prod.snd

@[simp]
lemma lost_stranded (queue : List (Batch α)) :
    lost (queue.map .stranded) = queue.map Batch.sequence := by
  induction queue with
  | nil => rfl
  | cons batch queue ih => simpa using ih

@[simp]
lemma numbers_append : numbers (history ++ later) = numbers history ++ numbers later := by
  simp [numbers]

@[simp]
lemma pushed_append : pushed (history ++ later) = pushed history ++ pushed later := by
  simp [pushed]

/-- The items that a call pushed are those that are marked with it. -/
lemma pushedBy_eq (call : Nat) (history : List (Event α)) :
    pushedBy call history = ((pushes history).filter (·.1 == call)).map Prod.snd := by
  induction history with
  | nil => rfl
  | cons event history ih =>
    rw [Projection.cons, Projection.cons, List.filter_append, List.map_append, ih]
    cases event with
    | pushed other items =>
      by_cases heq : other = call <;>
      simp [List.filter_map, Function.comp_def, heq]
    | _ => rfl

/-- Where a call does nothing, it pushes no items. -/
lemma pushedBy_of_caller {call : Nat} (h : ∀ event ∈ history, event.caller ≠ some call) :
    pushedBy call history = [] := by
  apply (Projection.eq_nil_iff _).mpr
  intro event hevent
  have hcaller := h event hevent
  cases event with
  | pushed other items => exact if_neg fun heq => hcaller (congrArg some heq)
  | _ => rfl

/-- Where a call does nothing, it forms no batch. -/
lemma formedBy_of_caller {call : Nat} (h : ∀ event ∈ history, event.caller ≠ some call) :
    formedBy call history = [] := by
  apply (Projection.eq_nil_iff _).mpr
  intro event hevent
  have hcaller := h event hevent
  cases event with
  | formed other batch => exact if_neg fun heq => hcaller (congrArg some heq)
  | _ => rfl

/-- Where every batch finds a worker, the settled batches are those whose callback was over. -/
lemma settled_eq_finished (h : history.any Event.isUnserved = false) :
    settled history = (finished history).map BatchResult.sequence := by
  induction history with
  | nil => rfl
  | cons event history ih =>
    rw [List.any_cons, Bool.or_eq_false_iff] at h
    rw [Projection.cons, Projection.cons, List.map_append, ih h.2]
    cases event with
    | refused call batch => cases h.1
    | _ => rfl

/-- Where every batch finds a worker and no call is dropped, the lost batches are those that broke
a worker down. -/
lemma lost_eq_broken (hserved : history.any Event.isUnserved = false)
    (hkept : history.any Event.isAbandoned = false) :
    lost history = (broken history).map Batch.sequence := by
  induction history with
  | nil => rfl
  | cons event history ih =>
    rw [List.any_cons, Bool.or_eq_false_iff] at hserved hkept
    rw [Projection.cons, Projection.cons, List.map_append, ih hserved.2 hkept.2]
    cases event with
    | stranded batch => cases hserved.1
    | abandoned call batch => cases hkept.1
    | _ => rfl

/-- Where no batch is lost, none broke a worker down. -/
lemma broken_eq_nil (h : lost history = []) : broken history = [] := by
  induction history with
  | nil => rfl
  | cons event history ih =>
    rw [Projection.cons, List.append_eq_nil_iff] at h
    rw [Projection.cons, ih h.2]
    cases event with
    | broken worker batch => cases h.1
    | _ => rfl

lemma mem_formed {batch : Batch α} :
    batch ∈ formed history ↔ ∃ call, .formed call batch ∈ history := by
  rw [Projection.mem_iff]
  constructor
  · rintro ⟨event, hmem, hbatch⟩
    cases event <;> simp at hbatch
    exact ⟨_, hbatch ▸ hmem⟩
  · rintro ⟨call, hmem⟩
    exact ⟨_, hmem, by simp⟩

lemma mem_called {result : BatchResult} : result ∈ called history ↔ .called result ∈ history := by
  rw [Projection.mem_iff]
  constructor
  · rintro ⟨event, hmem, hresult⟩
    cases event <;> simp at hresult
    exact hresult ▸ hmem
  · exact fun hmem => ⟨_, hmem, by simp⟩

lemma mem_finished {result : BatchResult} :
    result ∈ finished history ↔ .finished result ∈ history := by
  rw [Projection.mem_iff]
  constructor
  · rintro ⟨event, hmem, hresult⟩
    cases event <;> simp at hresult
    exact hresult ▸ hmem
  · exact fun hmem => ⟨_, hmem, by simp⟩

end History

/-- What stands around the only event of a history. -/
lemma append_cons_eq_singleton {first rest : List (Event α)} {event event' : Event α}
    (h : first ++ event :: rest = [event']) : first = [] ∧ rest = [] := by
  rcases List.append_eq_singleton_iff.mp h with ⟨hfirst, hrest⟩ | ⟨-, hrest⟩
  · exact ⟨hfirst, (List.cons.inj hrest).2⟩
  · cases hrest

/-- An event of two histories is in the first or in the second one. -/
lemma split_of_append {earlier events before after : List (Event α)} {event : Event α}
    (h : earlier ++ events = before ++ event :: after) :
    (∃ more, earlier = before ++ event :: more ∧ after = more ++ events) ∨
      ∃ first, before = earlier ++ first ∧ events = first ++ event :: after := by
  rcases List.append_eq_append_iff.mp h with ⟨first, hbefore, hevents⟩ | ⟨more, hearlier, hmore⟩
  · exact .inr ⟨first, hbefore, hevents⟩
  · cases more with
    | nil =>
      rw [List.append_nil] at hearlier
      exact .inr ⟨[], by rw [hearlier, List.append_nil], hmore.symm⟩
    | cons event' more =>
      obtain ⟨rfl, rfl⟩ := List.cons.inj hmore
      exact .inl ⟨more, hearlier, rfl⟩

/-- Where an entry stands in the history, if an event adds at most one. -/
lemma History.Projection.exists_event {β : Type} {projection : Projection α β}
    (hone : ∀ event, (projection.ofEvent event).length ≤ 1) {history : List (Event α)} {k : Nat}
    {x : β} (h : (projection history)[k]? = some x) :
    ∃ before event after, history = before ++ event :: after ∧ projection.ofEvent event = [x] ∧
      (projection before).length = k := by
  induction history generalizing k with
  | nil => simp at h
  | cons event history ih =>
    rw [Projection.cons] at h
    cases hevent : projection.ofEvent event with
    | nil =>
      rw [hevent, List.nil_append] at h
      obtain ⟨before, found, after, rfl, hfound, hlength⟩ := ih h
      exact ⟨event :: before, found, after, rfl, hfound, by simp [hevent, hlength]⟩
    | cons first rest =>
      have hlength := hone event
      rw [hevent, List.length_cons] at hlength
      obtain rfl : rest = [] := List.length_eq_zero_iff.mp (by omega)
      rw [hevent, List.singleton_append] at h
      cases k with
      | zero =>
        obtain rfl : first = x := Option.some.inj h
        exact ⟨[], event, history, rfl, hevent, rfl⟩
      | succ k =>
        obtain ⟨before, found, after, rfl, hfound, hlength⟩ := ih h
        exact ⟨event :: before, found, after, rfl, hfound, by simp [hevent, hlength]⟩

/-! ## Runs -/

/-- An event of a run comes from a step, which a shorter run precedes. -/
theorem Runs.exists_step {config : BatcherConfig} {labels : List (Label α)} {s : State α}
    {history earlier later : List (Event α)} {event : Event α} (hrun : Runs config labels s history)
    (h : history = earlier ++ event :: later) :
    ∃ (before : List (Label α)) (u : State α) (past : List (Event α)) (label : Label α)
      (v : State α) (first rest : List (Event α)), Runs config before u past ∧
      u.step label = some (v, first ++ event :: rest) ∧ earlier = past ++ first := by
  induction hrun generalizing later with
  | start => simp at h
  | @step labels s t label history events hrun hstep ih =>
    rcases split_of_append h with ⟨more, hold, -⟩ | ⟨first, hearlier, rfl⟩
    · exact ih hold
    · exact ⟨labels, s, history, label, t, first, later, hrun, hstep, hearlier⟩

/-- The batcher after the steps of some labels, if all of them are possible, and what they bring
about. -/
def State.run (s : State α) : List (Label α) → Option (State α × List (Event α))
  | [] => some (s, [])
  | label :: labels =>
    (s.step label).bind fun (t, events) =>
      (t.run labels).map fun (u, more) => (u, events ++ more)

lemma Runs.append {config : BatcherConfig} {labels more : List (Label α)} {s t : State α}
    {history events : List (Event α)} (hrun : Runs config labels s history)
    (h : s.run more = some (t, events)) : Runs config (labels ++ more) t (history ++ events) := by
  induction more generalizing labels s history events with
  | nil =>
    obtain ⟨rfl, rfl⟩ := Prod.mk.inj (Option.some.inj h)
    simpa using hrun
  | cons label more ih =>
    obtain ⟨⟨u, first⟩, hstep, h⟩ := Option.bind_eq_some_iff.mp h
    obtain ⟨⟨t', later⟩, hmore, h⟩ := Option.map_eq_some_iff.mp h
    obtain ⟨rfl, rfl⟩ := Prod.mk.inj h
    have hall := ih (hrun.step hstep) hmore
    simpa using hall

/-- The run of a batcher that was just started. -/
lemma Runs.of_run {config : BatcherConfig} {labels : List (Label α)} {s : State α}
    {history : List (Event α)} (h : (State.initial config).run labels = some (s, history)) :
    Runs config labels s history := by
  simpa using Runs.start.append h

end BulkWrite.Batcher
