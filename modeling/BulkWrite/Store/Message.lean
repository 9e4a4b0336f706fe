import BulkWrite.Attempt
import BulkWrite.Item.Delete
import BulkWrite.Item.Object
import BulkWrite.Item.Reference
import BulkWrite.Result

/-!
# Messages of the store

What a request for a batch holds and what the store answers. The store takes all objects or
references of a batch in one request and answers with one entry for each, in their order. It takes
one filtered delete in a request and answers with a summary.
-/

namespace BulkWrite

/-! ## Requests -/

def ObjectItem.message (items : List ObjectItem) : Json :=
  .object [("fields", .array [.text "ALL"]), ("objects", .array (items.map ObjectItem.toJson))]

def ReferenceItem.messageEntry (r : ReferenceItem) : Json :=
  .present [("from", some (.text r.sourceAddress)), ("to", some (.text r.targetAddress)),
    ("tenant", r.tenant.map .text)]

def ReferenceItem.message (items : List ReferenceItem) : Json :=
  .array (items.map ReferenceItem.messageEntry)

def DeleteItem.message (d : DeleteItem) : Json :=
  .object [("match", .object [("class", .text d.className), ("where", d.filter)]),
    ("output", .text d.output.name), ("dryRun", .bool d.dryRun)]

/-! ## Entries for objects and references -/

structure Entry where
  status : Option String := none
  errors : List ItemError := []
deriving DecidableEq, Repr

namespace Entry

/-- The status of a rejected item, in any letter case. -/
def failedStatus : String := "failed"

def isFailed (e : Entry) : Bool :=
  !e.errors.isEmpty || e.status.any fun status => Text.foldCase status == failedStatus

/-- The outcome of the item with the given identifier. -/
def outcome (id : String) (e : Entry) : ItemResult :=
  if e.isFailed then .failed id e.errors else .success id

def error : Decoder ItemError :=
  Fields.record "ErrorEntry" (ItemError.mk <$> .absentAs "message" "" Decoder.text)

def errorList : Decoder (List ItemError) :=
  Fields.record "ErrorList" (.absentAs "error" [] (Decoder.list error))

def result : Decoder Entry :=
  Fields.record "ResultBlock" <|
    (fun status errors => ⟨status, errors.getD []⟩) <$> .optional "status" Decoder.text
      <*> .optional "errors" errorList

/-- An entry; without a result it says nothing. -/
def decoder : Decoder Entry :=
  Fields.record "ItemResponse" ((·.getD {}) <$> .optional "result" result)

end Entry

/-- The outcomes of items, each from the entry at its place. There must be as many of both. -/
def correlate {α : Type} [Item α] (items : List α) (entries : List Entry) :
    Except Fault (List ItemResult) :=
  if entries.length = items.length then
    .ok (List.zipWith (fun item entry => entry.outcome (Item.id item)) items entries)
  else .error (Outcome.miscounted items.length entries.length)

/-! ## Summaries of deletes -/

/-- What the store says of a filtered delete. -/
structure DeleteSummary where
  /-- How many objects the condition selects. -/
  matched : UInt64
  /-- How many objects a delete removes at most. -/
  limit : UInt64
  successful : UInt64
  failed : UInt64
  /-- What became of each object, if the store says so. -/
  objects : Option (List Json)
deriving Repr

namespace DeleteSummary

def toJson (s : DeleteSummary) : Json :=
  .present [("failed", some (.whole s.failed.toNat)), ("limit", some (.whole s.limit.toNat)),
    ("matches", some (.whole s.matched.toNat)), ("objects", s.objects.map .array),
    ("successful", some (.whole s.successful.toNat))]

def decoder : Decoder DeleteSummary :=
  Fields.record "DeleteSummary" <|
    DeleteSummary.mk <$> .absentAs "matches" 0 Decoder.word64
      <*> .absentAs "limit" 0 Decoder.word64
      <*> .absentAs "successful" 0 Decoder.word64
      <*> .absentAs "failed" 0 Decoder.word64
      <*> .optional "objects" (Decoder.list Decoder.value)

def answer : Decoder DeleteSummary :=
  Fields.record "DeleteResponse" (.required "results" decoder)

/-- Why the delete counts as rejected. -/
def complaint (s : DeleteSummary) : ItemError :=
  ⟨s!"{s.failed.toNat} of {s.matched.toNat} matched objects failed to delete"⟩

def outcome (id : String) (s : DeleteSummary) : ItemResult :=
  let result := if s.failed = 0 then ItemResult.success id else .failed id [s.complaint]
  { result with detail := some s.toJson }

end DeleteSummary

end BulkWrite
