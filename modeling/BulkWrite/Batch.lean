import BulkWrite.Item.Basic

/-!
# Batches

A batch is a group of items that are submitted together, in order. Its sequence number tells when it
was formed: items of an earlier batch precede those of a later one. The number has no bound here; a
word of 64 bits would overflow after 2^64 batches, where a checked addition breaks down.
-/

namespace BulkWrite

structure Batch (α : Type) where
  sequence : Nat
  items : List α
deriving DecidableEq, Repr, Inhabited

namespace Batch

variable {α : Type} [Item α]

def ids (b : Batch α) : List String :=
  b.items.map Item.id

end Batch

end BulkWrite
