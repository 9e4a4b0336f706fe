import BulkWrite.Text.Keyword

/-!
# Consistency levels

How many replicas of the store must confirm a write.
-/

namespace BulkWrite

/-- How many replicas must confirm a write. -/
inductive Consistency where
  | one
  | quorum
  | all
deriving DecidableEq, Repr

namespace Consistency

def vocabulary : Vocabulary Consistency :=
  ⟨"ConsistencyLevel", [("one", .one), ("quorum", .quorum), ("all", .all)]⟩

def name : Consistency → String
  | .one => "one"
  | .quorum => "quorum"
  | .all => "all"

/-- The spelling of a level in a query. -/
def queryValue : Consistency → String
  | .one => "ONE"
  | .quorum => "QUORUM"
  | .all => "ALL"

end Consistency

end BulkWrite
