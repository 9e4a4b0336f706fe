import BulkWrite.Json.Value

/-!
# Documents as they were read

A document keeps what a decoder must still see and a value no longer shows: members in the order of
the text, repeated names included, and the places where something stands that is written correctly
but denotes nothing. Such a *flaw* is a number too large for the 64-bit format, a text with half of
a surrogate pair, or an array or object nested too deeply. A flaw that nobody looks at does no harm.
-/

namespace BulkWrite

/-- A document in the order of its text. -/
inductive Document where
  | null
  | bool (b : Bool)
  | number (n : Json.Number)
  | text (s : String)
  | sequence (items : List Document)
  /-- The name of a member is absent if it is flawed. -/
  | mapping (members : List (Option String × Document))
  | flawed
deriving Repr, Inhabited

namespace Document

/-- A date of a format that has dates is a mapping of this one name. -/
def momentMark : String := "$__toml_private_datetime"

/-- How deeply arrays and objects may be nested. -/
def nestingBound : Nat := 127

mutual

/-- Whether there is no flaw anywhere in the document. -/
def isSound : Document → Bool
  | .sequence items => areSound items
  | .mapping members => membersAreSound members
  | .flawed => false
  | _ => true

def areSound : List Document → Bool
  | [] => true
  | d :: ds => d.isSound && areSound ds

def membersAreSound : List (Option String × Document) → Bool
  | [] => true
  | (name, d) :: ms => name.isSome && d.isSound && membersAreSound ms

end

mutual

/-- Whether there is a whole number beyond the signed 64-bit words anywhere in the document. -/
def hasWideNumber : Document → Bool
  | .number (.whole n) => n < -0x8000000000000000 || 0x8000000000000000 ≤ n
  | .sequence items => haveWideNumber items
  | .mapping members => membersHaveWideNumber members
  | _ => false

def haveWideNumber : List Document → Bool
  | [] => false
  | d :: ds => d.hasWideNumber || haveWideNumber ds

def membersHaveWideNumber : List (Option String × Document) → Bool
  | [] => false
  | (_, d) :: ms => d.hasWideNumber || membersHaveWideNumber ms

end

mutual

/-- The canonical value of a document without flaws. -/
def toJson? : Document → Option Json
  | .null => some .null
  | .bool b => some (.bool b)
  | .number n => some (.number n)
  | .text s => some (.text s)
  | .sequence items => (itemsToJson? items).map .array
  | .mapping members => (membersToJson? members []).map .object
  | .flawed => none

def itemsToJson? : List Document → Option (List Json)
  | [] => some []
  | d :: ds =>
    match d.toJson?, itemsToJson? ds with
    | some v, some vs => some (v :: vs)
    | _, _ => none

/-- The members of an object, ascending, on top of those before them; the last of several members of
one name counts. -/
def membersToJson? :
    List (Option String × Document) → List (String × Json) → Option (List (String × Json))
  | [], before => some before
  | (some name, d) :: ms, before =>
    match d.toJson? with
    | some v => membersToJson? ms (Json.insert name v before)
    | none => none
  | (none, _) :: _, _ => none

end

end Document

end BulkWrite
