import BulkWrite.Batcher.Step
import BulkWrite.Simulation.Script

/-!
# A batcher on a virtual clock

A world is a batcher with a scripted transport and a clock of whole milliseconds. The clock moves
only when nobody can go on without it, and then to the next alarm.

Calls, workers and the dispatcher are the *actors*. An actor that a step wakes queues behind those
woken before it, and the first one in the queue goes on as far as it can. One call may be in the
foreground; it goes on only when nobody else can.

Idle workers take turns at the receiving end of the queue, which the one has that has been idle
longest. A call first hands its batch to that worker and gives the pending list back afterwards, so
it wakes the worker before the next call. A worker that takes a batch first makes room for the call
that waits for it and then passes the receiving end on.
-/

namespace BulkWrite.Simulation

open Batcher

inductive Actor where
  | call (index : Nat)
  | worker (index : Nat)
  | dispatcher
deriving DecidableEq, Repr

structure Alarm where
  due : Nat
  actor : Actor

/-- A batcher, its transport, and what happened so far. -/
structure World (α : Type) where
  state : State α
  script : Script
  now : Nat := 0
  /-- The alarms to come, one for each actor at most, the latest last. -/
  alarms : List Alarm := []
  rung : List Actor := []
  /-- The actors that were woken, in order. -/
  ready : List Actor := []
  /-- The actors that are not at their end, the one first whose last step is longest ago. -/
  rested : List Actor := []
  foreground : Option Nat := none
  background : List (String × Nat) := []
  /-- The submissions since the last report, with their times, the latest first. -/
  submissions : List (Nat × Batch α) := []
  /-- The callbacks since the last report, with their times, the latest first. -/
  callbacks : List (Nat × BatchResult) := []
  /-- The submissions that are under way. -/
  running : Nat := 0
  /-- The most submissions that were under way at once. -/
  peak : Nat := 0

namespace World

variable {α : Type} [Item α]

/-- A world whose batcher was just started. -/
def initial (config : BatcherConfig) (script : Script) : World α :=
  { state := .initial config
    script
    rested := (List.range config.poolSize.toNat).map .worker ++ [.dispatcher] }

/-! ## Alarms -/

def clearAlarm (w : World α) (actor : Actor) : World α :=
  { w with alarms := w.alarms.filter (·.actor != actor), rung := w.rung.erase actor }

/-- Sets the alarm of an actor. Without a delay it goes off at once. -/
def setAlarm (w : World α) (actor : Actor) (delay : Nat) : World α :=
  let w := w.clearAlarm actor
  if delay = 0 then { w with rung := actor :: w.rung }
  else { w with alarms := w.alarms ++ [⟨w.now + delay, actor⟩] }

def isDue (w : World α) (actor : Actor) : Bool :=
  w.rung.contains actor

def isForeground (w : World α) (actor : Actor) : Bool :=
  match w.foreground with
  | some index => actor == .call index
  | none => false

def nextDue? (w : World α) : Option Nat :=
  (w.alarms.map Alarm.due).min?

/-! ## Actors -/

/-- The idle worker at the receiving end of the queue. -/
def receiver? (w : World α) : Option Nat :=
  w.rested.findSome? fun
    | .worker index =>
      match w.state.workers[index]? with
      | some .idle => some index
      | _ => none
    | _ => none

/-- The step that an actor would take now. What is said of a worker that breaks down is left
empty. -/
def nextLabel? (w : World α) (actor : Actor) : Option (Label α) :=
  match actor with
  | .call index =>
    match w.state.calls[index]? with
    | some (.joining (handle :: _) _) =>
      if (w.state.ended? handle).isSome then some (.advance index)
      else if w.isDue actor then some (.expire index)
      else none
    | _ => some (.advance index)
  | .worker index =>
    match w.state.workers[index]? with
    | some .idle => if w.receiver? = some index then some (.take index) else none
    | some (.submitting e) =>
      if w.isDue actor then
        match w.script.reply? e.batch (e.stats.attempts.toNat - 1) with
        | some reply => some (.reply index reply)
        | none => some (.crash index "")
      else none
    | some (.backingOff _ _) => if w.isDue actor then some (.resume index) else none
    | _ => none
  | .dispatcher =>
    match w.state.dispatcher with
    | .idle => some .receive
    | .calling _ => some .finish
    | .waking => some .wake
    | .exited => none

def canGoOn (w : World α) (actor : Actor) : Bool :=
  match w.nextLabel? actor with
  | some label => (w.state.step label).isSome
  | none => false

def isOver (w : World α) : Actor → Bool
  | .call index =>
    match w.state.calls[index]? with
    | some (.returned _) | some .dropped => true
    | _ => false
  | .worker index =>
    match w.state.workers[index]? with
    | some .exited | some (.crashed _) => true
    | _ => false
  | .dispatcher =>
    match w.state.dispatcher with
    | .exited => true
    | _ => false

/-- Notes that an actor has taken a step. -/
def rest (w : World α) (actor : Actor) : World α :=
  { w with rested := w.rested.erase actor ++ if w.isOver actor then [] else [actor] }

def receivers (w : World α) : List Actor :=
  (w.receiver?.map Actor.worker).toList

def enabledCalls (w : World α) : List Actor :=
  w.rested.filter fun
    | .call index => w.canGoOn (.call index)
    | _ => false

/-- Lets actors queue, except for those that do already, for one that is going on anyway and for the
foreground. -/
def wake (w : World α) (current : Option Actor) (actors : List Actor) : World α :=
  let woken := actors.filter fun a =>
    current != some a && !w.isForeground a && !w.ready.contains a
  { w with ready := w.ready ++ woken }

/-- Wakes the actors that can go on now, the tasks before the calls. -/
def wakeActors (w : World α) (current : Option Actor) : World α :=
  w.wake current ((w.receivers ++ [Actor.dispatcher]).filter w.canGoOn ++ w.enabledCalls)

/-- Wakes the actors that the step of an actor lets go on. After a batch was taken, the call that
waits for room comes first, and then the next receiver, be there another batch or not. -/
def wakeAfter (w : World α) (actor : Actor) (label : Label α) (events : List (Event α)) : World α :=
  match label, events with
  | .take _, _ :: _ => w.wake (some actor) (w.enabledCalls ++ w.receivers)
  | _, _ => w.wakeActors (some actor)

def note (w : World α) : Event α → World α
  | .submitted index batch =>
    let w := { w with
      submissions := (w.now, batch) :: w.submissions
      running := w.running + 1
      peak := max w.peak (w.running + 1) }
    match w.state.workers[index]? with
    | some (Worker.submitting e) =>
      w.setAlarm (.worker index)
        (w.script.latencyOf batch.sequence (e.stats.attempts.toNat - 1))
    | _ => w
  | .called result => { w with callbacks := (w.now, result) :: w.callbacks }
  | _ => w

/-- Sets or clears the alarm of an actor that has taken a step. -/
def rearm (w : World α) (actor : Actor) (label : Label α) : World α :=
  match label, actor with
  | .reply _ _, .worker index | .crash _ _, .worker index =>
    let w := { w with running := w.running - 1 }.clearAlarm actor
    match w.state.workers[index]? with
    | some (Worker.backingOff wait _) => w.setAlarm actor wait.millisCeil
    | _ => w
  | .advance _, .call index | .expire _, .call index =>
    match w.state.calls[index]? with
    | some (Phase.joining (_ :: _) _) =>
      w.setAlarm actor w.state.config.joinTimeout.millisCeil
    | _ => w.clearAlarm actor
  | _, _ => w

/-- One step of an actor; none if it cannot go on. -/
def stepActor? (w : World α) (actor : Actor) : Option (World α) :=
  match w.nextLabel? actor with
  | none => none
  | some label =>
    match w.state.step label with
    | none => none
    | some (state, events) =>
      let w := { w with state }
      let w := w.rearm actor label
      let w := events.foldl note w
      some ((w.rest actor).wakeAfter actor label events)

/-- An actor goes on as far as it can. -/
def goOn (actor : Actor) : Nat → World α → World α
  | 0, w => w
  | fuel + 1, w =>
    match w.stepActor? actor with
    | some w => goOn actor fuel w
    | none => w

/-- More steps than any actor takes, and more turns than any world has at one time. -/
def turnBound : Nat := UInt32.size

/-- All actors go on as far as they can while the clock stands still, or until the foreground is
over. -/
def settle : Nat → World α → World α
  | 0, w => w
  | fuel + 1, w =>
    match w.ready with
    | actor :: ready => settle fuel (goOn actor turnBound { w with ready })
    | [] =>
      match w.foreground with
      | none => w
      | some index =>
        if w.canGoOn (.call index) then
          let w := goOn (.call index) turnBound w
          if w.isOver (.call index) then w else settle fuel w
        else w

/-- The world when nobody can go on without the clock, or the foreground is over. -/
def settled (w : World α) : World α :=
  settle turnBound (w.wakeActors none)

/-! ## Time -/

/-- Moves the clock, and lets the actors go on whose alarms go off, the oldest alarm first. -/
def moveTo (w : World α) (time : Nat) : World α :=
  let (due, alarms) := w.alarms.partition (·.due ≤ time)
  let rung := due.map Alarm.actor
  { w with
    now := time
    alarms
    rung := w.rung ++ rung
    ready := w.ready ++ rung.filter fun a => !w.isForeground a }.settled

/-- Moves the clock from alarm to alarm until a call is over, but not past a limit. -/
def moveUntil (isOver : World α → Bool) (limit : Nat) : Nat → World α → World α
  | 0, w => w
  | fuel + 1, w =>
    if isOver w then w
    else
      match w.nextDue? with
      | some due => if due < limit then moveUntil isOver limit fuel (w.moveTo due) else w
      | none => w

/-- Moves the clock from alarm to alarm up to a time. -/
def passTo (limit : Nat) : Nat → World α → World α
  | 0, w => w
  | fuel + 1, w =>
    match w.nextDue? with
    | some due => if due ≤ limit then passTo limit fuel (w.moveTo due) else { w with now := limit }
    | none => { w with now := limit }

end World

end BulkWrite.Simulation
