import BulkWrite.Decode.Decoder
import BulkWrite.Text.Keyword

/-!
# Keywords in documents

A keyword stands in a document as its exact spelling, or as a mapping from that spelling alone to
nothing: null in one dialect, an empty table or array in the other.
-/

namespace BulkWrite.Vocabulary

variable {α : Type}

/-- The value of a spelling that must be known. -/
def known (v : Vocabulary α) (s : String) : Except Cause α :=
  match v.find? s with
  | some a => .ok a
  | none => .error (.unknownVariant s v.spellings)

/-- What a value is called where an empty table is expected. -/
def tableKind : Document → String
  | .text _ => "string"
  | .bool _ => "boolean"
  | .number (.whole _) => "integer"
  | .number _ => "float"
  | .mapping _ => "datetime"
  | _ => "value"

/-- Demands nothing of null, and nothing else. -/
def nothing (d : Document) : Except Cause Unit :=
  match d with
  | .null => .ok ()
  | d => .error (d.unfit "unit")

def emptyTable (d : Document) : Except Cause Unit :=
  match d with
  | .sequence [] | .mapping [] => .ok ()
  | .sequence _ => .error (.expected "empty array")
  | .mapping [(some name, _)] =>
    let isMoment := name = Document.momentMark
    .error (.expected (if isMoment then s!"table, found {tableKind d}" else "empty table"))
  | .mapping _ => .error (.expected "empty table")
  | d => .error (.expected s!"table, found {tableKind d}")

def decoder (v : Vocabulary α) : Decoder α
  | _, .text s => v.known s
  | _, .flawed => .error .flawed
  | _, .mapping ((none, _) :: _) => .error .flawed
  | .json, .mapping ((some name, d) :: rest) => do
    let a ← v.known name
    nothing d
    if rest.isEmpty then return a else throw (.expected "value")
  | .json, _ => .error (.expected "value")
  | .toml, .mapping [(some name, d)] => do
    if name = Document.momentMark then throw (.demanded "string or table")
    let a ← v.known name
    emptyTable d
    return a
  | .toml, .mapping [] => .error (.demanded "exactly 1 element, found 0 elements")
  | .toml, .mapping _ => .error (.demanded "exactly 1 element, more than 1 element")
  | .toml, _ => .error (.demanded "string or table")

end BulkWrite.Vocabulary
