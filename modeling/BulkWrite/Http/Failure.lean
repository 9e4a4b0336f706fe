import BulkWrite.Error
import BulkWrite.Fault
import BulkWrite.Url.Basic

/-!
# Failures of requests

A request fails before it leaves, on the way, or because of what came back. Its failure is worded
once and then taken for one of two things: a fault of the submission that the request belonged to,
or an error of the library where no batch was under way.

A connection that was not made in time is both late and not made. As a fault it counts as not made,
since the store never saw the request; as an error it counts as late.
-/

namespace BulkWrite.Http

/-- Where a request failed. -/
inductive Stage where
  | setup
  /-- There was no connection, perhaps not in time. -/
  | connection (timedOut : Bool)
  | deadline
  /-- The answer said so, for a reason that it may have given. -/
  | status (code : UInt16) (reason : Option String)
  | body
  | exchange
deriving DecidableEq, Repr

structure Failure where
  stage : Stage
  /-- Where the request went, if that is known. -/
  url : Option Url := none
  /-- The causes, the nearest first. -/
  causes : List String := []
deriving DecidableEq, Repr

namespace Failure

/-- Whether a status puts the blame on the request. -/
def blamesRequest (code : UInt16) : Bool :=
  400 ≤ code && code < 500

def stageText : Stage → String
  | .setup => "builder error"
  | .connection _ | .deadline | .exchange => "error sending request"
  | .body => "error decoding response body"
  | .status code reason =>
    let side := if blamesRequest code then "client" else "server"
    let why := (reason.map (" " ++ ·)).getD ""
    s!"HTTP status {side} error ({code.toNat}{why})"

def text (f : Failure) : String :=
  stageText f.stage ++ (f.url.map fun u => s!" for url ({u.text})").getD ""

/-- A failure in words, with all of its causes. -/
def describe (f : Failure) : String :=
  ": ".intercalate (f.text :: f.causes)

/-- The failure as a fault of a submission. -/
def toFault (f : Failure) : Fault :=
  Fault.bounded <|
    match f.stage with
    | .connection _ => .connect f.describe
    | .deadline => .timeout f.describe
    | .status code _ => .status code f.describe
    | .body => .decode f.describe
    | .setup | .exchange => .protocol f.describe

def toError (f : Failure) : Error :=
  match f.stage with
  | .setup => .config s!"invalid HTTP client setup: {f.text}"
  | .deadline | .connection true => .network "HTTP request timed out"
  | .connection false => .network "HTTP connection failure"
  | .status _ _ | .body | .exchange => .network f.text

end Failure

end BulkWrite.Http
