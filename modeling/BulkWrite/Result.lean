import BulkWrite.Decode.Choice
import BulkWrite.Decode.Record
import BulkWrite.Duration
import BulkWrite.Fault

/-!
# Results

The store reports an outcome for each item of a batch. The result of a batch holds these outcomes,
or the fault that ended its submission, and what the attempts took.
-/

namespace BulkWrite

/-! ## Items -/

inductive ItemStatus where
  | success
  | failed
deriving DecidableEq, Repr, Inhabited

namespace ItemStatus

def vocabulary : Vocabulary ItemStatus :=
  ⟨"ItemStatus", [("success", .success), ("failed", .failed)]⟩

def name : ItemStatus → String
  | .success => "success"
  | .failed => "failed"

end ItemStatus

/-- Why an item was not written. -/
structure ItemError where
  message : String
deriving DecidableEq, Repr, Inhabited

namespace ItemError

def toJson (e : ItemError) : Json :=
  .object [("message", .text e.message)]

def decoder : Decoder ItemError :=
  Fields.record "ItemError" (ItemError.mk <$> .required "message" Decoder.text)

end ItemError

structure ItemResult where
  id : String
  status : ItemStatus
  errors : List ItemError := []
  /-- What the store sent along. -/
  detail : Option Json := none
deriving Repr, Inhabited

namespace ItemResult

def success (id : String) : ItemResult := ⟨id, .success, [], none⟩

def failed (id : String) (errors : List ItemError) : ItemResult := ⟨id, .failed, errors, none⟩

def isFailed (r : ItemResult) : Bool := r.status == .failed

def toJson (r : ItemResult) : Json :=
  .present [("id", some (.text r.id)), ("status", some (.text r.status.name)),
    ("errors", if r.errors.isEmpty then none else some (.array (r.errors.map ItemError.toJson))),
    ("detail", r.detail)]

def decoder : Decoder ItemResult :=
  Fields.record "ItemResult" <|
    ItemResult.mk <$> .required "id" Decoder.text
      <*> .required "status" ItemStatus.vocabulary.decoder
      <*> .absentAs "errors" [] (Decoder.list ItemError.decoder)
      <*> .optional "detail" Decoder.value

end ItemResult

/-! ## Batches -/

/-- What the attempts at one batch took. -/
structure AttemptStats where
  /-- The submissions, the first one included. -/
  attempts : UInt32 := 0
  connectionRetries : UInt32 := 0
  timeoutRetries : UInt32 := 0
  /-- The time spent waiting between them. -/
  waited : Duration := .zero
deriving DecidableEq, Inhabited

namespace AttemptStats

def toJson (s : AttemptStats) : Json :=
  .object [("attempts", .whole s.attempts.toNat),
    ("connection_retries", .whole s.connectionRetries.toNat),
    ("timeout_retries", .whole s.timeoutRetries.toNat), ("waited_ms", s.waited.toJson)]

def decoder : Decoder AttemptStats :=
  Fields.record "AttemptStats" <|
    AttemptStats.mk <$> .required "attempts" Decoder.word32
      <*> .required "connection_retries" Decoder.word32
      <*> .required "timeout_retries" Decoder.word32
      <*> .required "waited_ms" Duration.decoder

end AttemptStats

/-- The result of one batch: the outcomes of its items, or a fault. -/
structure BatchResult where
  /-- The number of the batch. It has no bound here, as in `Batch`; a document holds 64 bits. -/
  sequence : Nat
  items : List ItemResult := []
  error : Option Fault := none
  stats : AttemptStats := {}
deriving Inhabited

namespace BatchResult

/-- Whether a fault ended the submission or an item was rejected. -/
def hasErrors (r : BatchResult) : Bool :=
  r.error.isSome || r.items.any ItemResult.isFailed

/-- The outcomes of the rejected items. -/
def failedItems (r : BatchResult) : List ItemResult :=
  r.items.filter ItemResult.isFailed

def failedCount (r : BatchResult) : Nat :=
  r.failedItems.length

def succeededCount (r : BatchResult) : Nat :=
  (r.items.filter fun item => !item.isFailed).length

def toJson (r : BatchResult) : Json :=
  .present [("batch", some (.whole r.sequence)),
    ("items", some (.array (r.items.map ItemResult.toJson))), ("error", r.error.map Fault.toJson),
    ("stats", some r.stats.toJson)]

def decoder : Decoder BatchResult :=
  Fields.record "AggregatedResult" <|
    BatchResult.mk <$> .required "batch" (Decoder.natural 64 "u64")
      <*> .required "items" (Decoder.list ItemResult.decoder)
      <*> .optional "error" Fault.decoder
      <*> .absentAs "stats" {} AttemptStats.decoder

end BatchResult

end BulkWrite
