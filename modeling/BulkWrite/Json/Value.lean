import BulkWrite.Json.Number

/-!
# Values of a document

A value is a tree. The members of an object keep their order, which is the order in which they are
written. Free values, those whose members nobody knows in advance, are kept *canonical*: names
ascend and differ (`Json.insert`), so two of them are equal as soon as they hold the same.
-/

namespace BulkWrite

inductive Json where
  | null
  | bool (b : Bool)
  | number (n : Json.Number)
  | text (s : String)
  | array (items : List Json)
  | object (members : List (String × Json))
deriving Repr, Inhabited

namespace Json

def whole (n : Int) : Json :=
  .number (.whole n)

/-- The members of an object without those that are absent. -/
def present (members : List (String × Option Json)) : Json :=
  .object (members.filterMap fun (name, value) => value.map (name, ·))

/-- Ascending members with one more; one of the same name is replaced. -/
def insert (name : String) (value : Json) : List (String × Json) → List (String × Json)
  | [] => [(name, value)]
  | (other, v) :: rest =>
    if name < other then (name, value) :: (other, v) :: rest
    else if name = other then (name, value) :: rest
    else (other, v) :: insert name value rest

/-- The member of an object with the given name, and null for anything else. -/
def member (name : String) : Json → Json
  | .object members => (members.lookup name).getD .null
  | _ => .null

def items : Json → List Json
  | .array items => items
  | _ => []

def text? : Json → Option String
  | .text s => some s
  | _ => none

def whole? : Json → Option Int
  | .number (.whole n) => some n
  | _ => none

end Json

end BulkWrite
