import BulkWrite.Simulation.World

/-!
# Sessions with a batcher

A session is a sequence of commands to a world. A command either is a call in the foreground, which
takes as long as it needs, or manages calls in the background, or lets time pass. After each command
the world settles, and a report says how the command ended and what happened since the last one.
-/

namespace BulkWrite.Simulation

open Batcher

/-- What is done next. -/
inductive Command (α : Type) where
  /-- Items are pushed by one call each, up to the first error. -/
  | enqueueEach (items : List α)
  | call (request : Request α)
  | pass (millis : Nat)
  | observe
  | spawn (name : String) (request : Request α)
  | join (name : String)
  | cancel (name : String)

/-- How a command ended. -/
inductive Ending where
  | ok
  /-- It was dropped, for it took too long. -/
  | hang
  | error (e : Error)
  /-- No call of that name is in the background. -/
  | noTask

/-- The state of affairs after a command. -/
structure Report (α : Type) where
  ending : Ending
  lifecycle : Lifecycle
  pending : Nat
  inFlight : Nat
  now : Nat
  /-- The callbacks since the last report, by time and batch. -/
  callbacks : List (Nat × BatchResult)
  submissions : List (Nat × Batch α)
  /-- The names of the calls in the background that are not over. -/
  waiting : List String

namespace World

variable {α : Type} [Item α]

/-- How long a command may take, in milliseconds. -/
def patience : Nat := 10000000

/-- How a call ended, if it is over. -/
def outcome? (w : World α) (index : Nat) : Option CallOutcome :=
  match w.state.calls[index]? with
  | some (Phase.returned outcome) => some outcome
  | _ => none

def endingOf : Option CallOutcome → Ending
  | some (.ok _) => .ok
  | some (.error e) => .error e
  | none => .hang

def dropCall (w : World α) (index : Nat) : World α :=
  match w.state.step (.cancel index) with
  | some (state, _) =>
    { w with state, rested := w.rested.erase (.call index) }.clearAlarm (.call index)
  | none => w

def beginCall (w : World α) (request : Request α) : World α :=
  { w with
    state := w.state.begin request
    rested := w.rested ++ [.call w.state.calls.length] }

/-- Waits for a call, but not past a limit. -/
def await (w : World α) (index limit : Nat) : World α :=
  w.moveUntil (fun w => (w.outcome? index).isSome) limit turnBound

/-- Makes a call in the foreground, which goes on before anybody else does. One that is not over at
the limit is dropped. -/
def callUntil (w : World α) (request : Request α) (limit : Nat) : World α × Ending :=
  let index := w.state.calls.length
  let w := goOn (.call index) turnBound { w.beginCall request with foreground := some index }
  let w := if w.isOver (.call index) then w else w.settled.await index limit
  let ending := endingOf (w.outcome? index)
  match w.outcome? index with
  | some _ => ({ w with foreground := none }, ending)
  | none =>
    let w := { w with foreground := none, now := limit }.dropCall index
    ((w.passTo limit turnBound).settled, ending)

/-- Pushes items by one call each, up to the first one that fails. -/
def enqueueEach (w : World α) (limit : Nat) : List α → World α × Ending
  | [] => (w, .ok)
  | item :: items =>
    match w.callUntil (.enqueue [item]) limit with
    | (w, .ok) => w.enqueueEach limit items
    | (w, ending) => (w, ending)

def named? (w : World α) (name : String) : Option Nat :=
  w.background.lookup name

def forget (w : World α) (name : String) : World α :=
  { w with background := w.background.filter (·.1 != name) }

/-- Carries out a command. -/
def carryOut (w : World α) : Command α → World α × Ending
  | .enqueueEach items => w.enqueueEach (w.now + patience) items
  | .call request => w.callUntil request (w.now + patience)
  | .pass millis => (w.passTo (w.now + millis) turnBound, .ok)
  | .observe => (w, .ok)
  | .spawn name request =>
    let index := w.state.calls.length
    let w := (w.forget name).beginCall request
    ({ w with background := (name, index) :: w.background }, .ok)
  | .join name =>
    match w.named? name with
    | none => (w, .noTask)
    | some index =>
      let limit := w.now + patience
      let w := ((w.forget name).settled).await index limit
      match w.outcome? index with
      | some outcome => (w, endingOf (some outcome))
      | none => (w.passTo limit turnBound, .hang)
  | .cancel name =>
    match w.named? name with
    | none => (w, .ok)
    | some index => ((w.forget name).dropCall index, .ok)

/-- Whether one entry precedes another, by time and then by batch. -/
def precedes (a b : Nat × Nat) : Bool :=
  a.1 < b.1 || (a.1 == b.1 && a.2 ≤ b.2)

/-- The state of affairs, and the world that starts to note afresh. -/
def report (w : World α) (ending : Ending) : World α × Report α :=
  let waiting := w.background.filter fun (_, index) => (w.outcome? index).isNone
  ({ w with submissions := [], callbacks := [] },
    { ending
      lifecycle := w.state.lifecycle
      pending := w.state.published
      inFlight := w.state.inFlight
      now := w.now
      callbacks := w.callbacks.reverse.mergeSort fun a b =>
        precedes (a.1, a.2.sequence) (b.1, b.2.sequence)
      submissions := w.submissions.reverse.mergeSort fun a b =>
        precedes (a.1, a.2.sequence) (b.1, b.2.sequence)
      waiting := (waiting.map (·.1)).mergeSort fun a b => a ≤ b })

/-- Carries out a command, lets the world settle, and reports. -/
def perform (w : World α) (command : Command α) : World α × Report α :=
  let (w, ending) := w.carryOut command
  w.settled.report ending

def performAll (w : World α) : List (Command α) → World α × List (Report α)
  | [] => (w, [])
  | command :: commands =>
    let (w, report) := w.perform command
    let (w, reports) := w.performAll commands
    (w, report :: reports)

end World

end BulkWrite.Simulation
