/-!
# Items

An item is one unit of work of a batch. All that the engine knows of it is its identifier, under
which its result is reported.
-/

namespace BulkWrite

/-- The types of items. -/
class Item (α : Type) where
  /-- The identifier of an item. -/
  id : α → String

end BulkWrite
