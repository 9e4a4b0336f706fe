import BulkWrite.Result

/-!
# Attempts

A submission brings either outcomes, one for each item, or a fault. Outcomes that are not exactly as
many as the items cannot be told apart by their items; they count as a fault of the protocol.
-/

namespace BulkWrite

/-- What a transport brings back from one submission. -/
abbrev Reply := Except Fault (List ItemResult)

/-- A reply as the engine sees it. -/
inductive Outcome where
  | response (items : List ItemResult)
  /-- A fault of the given class. -/
  | fault (cls : Fault.Class) (fault : Fault)

namespace Outcome

def ofFault (f : Fault) : Outcome :=
  .fault f.classify f

/-- The fault of a reply with the wrong number of outcomes. -/
def miscounted (expected received : Nat) : Fault :=
  (Fault.protocol s!"expected {expected} item results, received {received}").bounded

def ofReply (expected : Nat) : Reply → Outcome
  | .ok items =>
    if items.length = expected then .response items
    else ofFault (miscounted expected items.length)
  | .error f => ofFault f

end Outcome

end BulkWrite
