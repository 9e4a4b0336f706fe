import BulkWrite.Decode.Choice
import BulkWrite.Decode.Record

/-!
# Transport faults

A fault says what went wrong with a single submission. It belongs to a class, which decides whether
the batch may be submitted again: faults of the connection and of time are passing, all others are
final. Its text is bounded, so that a long answer of the remote store does not spread.

In a document a fault is one record with the kind and the fields of that kind; the kind may stand
anywhere among the fields.
-/

namespace BulkWrite

inductive Fault where
  /-- The store was not reached. -/
  | connect (message : String)
  | timeout (message : String)
  /-- The store answered that it failed. -/
  | status (code : UInt16) (body : String)
  /-- The answer was not understood. -/
  | decode (message : String)
  /-- Anything else between the two sides. -/
  | protocol (message : String)
deriving DecidableEq, Repr, Inhabited

namespace Fault

/-! ## Classes -/

/-- How a fault bears on another submission. -/
inductive Class where
  | connection
  | timeout
  | fatal
deriving DecidableEq, Repr

namespace Class

/-- Whether the batch may be submitted again. -/
def isRetryable : Class → Bool
  | .connection | .timeout => true
  | .fatal => false

def name : Class → String
  | .connection => "connection"
  | .timeout => "timeout"
  | .fatal => "fatal"

end Class

def classify : Fault → Class
  | .connect _ => .connection
  | .timeout _ => .timeout
  | .status _ _ | .decode _ | .protocol _ => .fatal

/-! ## Bounded texts -/

/-- The most bytes that the text of a fault has. -/
def detailBound : Nat := 512

/-- What stands for the part of a text that was cut off. -/
def ellipsis : String := "..."

/-- A text as a fault keeps it: whole if it has few enough bytes, else that many characters that
there is room for the ellipsis behind them. -/
def detail (s : String) : String :=
  if s.utf8ByteSize ≤ detailBound then s
  else String.ofList (s.toList.take (detailBound - ellipsis.length)) ++ ellipsis

/-- The fault with its text bounded. -/
def bounded : Fault → Fault
  | .connect m => .connect (detail m)
  | .timeout m => .timeout (detail m)
  | .status code body => .status code (detail body)
  | .decode m => .decode (detail m)
  | .protocol m => .protocol (detail m)

def text : Fault → String
  | .connect m | .timeout m | .decode m | .protocol m => m
  | .status _ body => body

def describe : Fault → String
  | .connect m => s!"connection failed: {m}"
  | .timeout m => s!"request timed out: {m}"
  | .status code body => s!"unexpected status {code.toNat}: {body}"
  | .decode m => s!"malformed response: {m}"
  | .protocol m => s!"protocol error: {m}"

/-! ## Documents -/

inductive Kind where
  | connect
  | timeout
  | status
  | decode
  | protocol
deriving DecidableEq, Repr

def kinds : Vocabulary Kind :=
  ⟨"TransportFault", [("connect", .connect), ("timeout", .timeout), ("status", .status),
    ("decode", .decode), ("protocol", .protocol)]⟩

def label : Fault → String
  | .connect _ => "connect"
  | .timeout _ => "timeout"
  | .status _ _ => "status"
  | .decode _ => "decode"
  | .protocol _ => "protocol"

def toJson : Fault → Json
  | .status code body =>
    .object [("kind", .text "status"), ("status", .whole code.toNat), ("body", .text body)]
  | fault => .object [("kind", .text fault.label), ("message", .text fault.text)]

def tag : String := "kind"

def fields : Kind → Fields Fault
  | .connect => .connect <$> .required "message" Decoder.text
  | .timeout => .timeout <$> .required "message" Decoder.text
  | .status => .status <$> .required "status" Decoder.word16 <*> .required "body" Decoder.text
  | .decode => .decode <$> .required "message" Decoder.text
  | .protocol => .protocol <$> .required "message" Decoder.text

def variantName : Kind → String
  | .connect => "TransportFault::Connect"
  | .timeout => "TransportFault::Timeout"
  | .status => "TransportFault::Status"
  | .decode => "TransportFault::Decode"
  | .protocol => "TransportFault::Protocol"

/-- The kind that a document names. -/
def kindOf : Document → Except Cause Kind
  | .text s => kinds.known s
  | d => .error (d.unfit "variant identifier")

/-- The kind of a fault whose members are given; it stands there once. -/
def kindAmong (members : List (Option String × Document)) : Except Cause Kind :=
  match members.filter (·.1 == some tag) with
  | [] => .error (.missingField tag)
  | [(_, d)] => kindOf d
  | (_, d) :: _ => do
    let _ ← kindOf d
    throw (.duplicateField tag)

/-- A fault in a document without flaws. -/
def decodeSound (dialect : Dialect) : Document → Except Cause Fault
  | .mapping members => do
    let kind ← kindAmong members
    (fields kind).fromMembers dialect (members.filter (·.1 != some tag))
  | .sequence [] => .error (.missingField tag)
  | .sequence (d :: items) => do
    let kind ← kindOf d
    let count := (fields kind).count
    let wanted := s!"struct variant {variantName kind} with {Fields.elements count}"
    let fault ← (fields kind).fromItems dialect wanted items
    if count < items.length then
      throw (.wrongLength items.length s!"{Fields.elements count} in sequence")
    return fault
  | d => .error (d.unfit "internally tagged enum TransportFault")

/-- A fault. All of it is looked at before its kind is known. -/
def decoder : Decoder Fault :=
  fun dialect d => if d.isSound then decodeSound dialect d else .error .flawed

end Fault

end BulkWrite
