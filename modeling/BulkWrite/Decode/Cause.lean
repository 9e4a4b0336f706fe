import BulkWrite.Json.Document
import BulkWrite.Text.Quoted

/-!
# Why a document does not fit

A decoder that meets something unfit says why with a `Cause`. `Cause.message` words it; how a binary
number is written in that text depends on the dialect of the document.
-/

namespace BulkWrite

/-- The language that a document is written in. -/
inductive Dialect where
  | json
  | toml
deriving DecidableEq, Repr

/-- How messages about a document write binary numbers. -/
def Dialect.layout : Dialect → Layout
  | .json => .double
  | .toml => .positional

/-- What stands where something else was wanted. -/
inductive Found where
  | null
  | bool (b : Bool)
  | number (n : Json.Number)
  | text (s : String)
  | sequence
  | mapping
deriving DecidableEq, Repr

/-- Why a document does not fit. -/
inductive Cause where
  | wrongType (found : Found) (wanted : String)
  /-- A whole number that the wanted type does not hold. -/
  | outOfRange (n : Int) (wanted : String)
  /-- A sequence with too few or too many items. -/
  | wrongLength (found : Nat) (wanted : String)
  /-- Items behind the last one that is wanted. -/
  | leftOver
  | duplicateField (name : String)
  | missingField (name : String)
  | unknownVariant (name : String) (known : List String)
  /-- Something else than what may stand here, which is not named. -/
  | expected (what : String)
  /-- The same, in other words. -/
  | demanded (what : String)
  /-- A flaw of the document itself. -/
  | flawed
deriving DecidableEq, Repr

namespace Found

def describe (layout : Layout) : Found → String
  | .null => "null"
  | .bool true => "boolean `true`"
  | .bool false => "boolean `false`"
  | .number (.whole n) => s!"integer `{n}`"
  | .number (.double x) | .number (.single x) =>
    s!"floating point `{String.ofList (layout.text x)}`"
  | .text s => s!"string {Text.quoted s}"
  | .sequence => "sequence"
  | .mapping => "map"

end Found

namespace Cause

/-- Spellings as a choice: two with "or" between them, more as a list. -/
def oneOf : List String → String
  | [a] => s!"`{a}`"
  | [a, b] => s!"`{a}` or `{b}`"
  | names => "one of " ++ ", ".intercalate (names.map fun a => s!"`{a}`")

/-- The text that stands for any flaw of the document itself. -/
def syntaxMark : String := "<syntax>"

def message (layout : Layout) : Cause → String
  | .wrongType found wanted => s!"invalid type: {found.describe layout}, expected {wanted}"
  | .outOfRange n wanted => s!"invalid value: integer `{n}`, expected {wanted}"
  | .wrongLength found wanted => s!"invalid length {found}, expected {wanted}"
  | .leftOver => "trailing characters"
  | .duplicateField name => s!"duplicate field `{name}`"
  | .missingField name => s!"missing field `{name}`"
  | .unknownVariant name known => s!"unknown variant `{name}`, expected {oneOf known}"
  | .expected what => s!"expected {what}"
  | .demanded what => s!"wanted {what}"
  | .flawed => syntaxMark

end Cause

namespace Document

def found : Document → Found
  | .null | .flawed => .null
  | .bool b => .bool b
  | .number n => .number n
  | .text s => .text s
  | .sequence _ => .sequence
  | .mapping _ => .mapping

/-- The cause that a document is not of the wanted type. -/
def unfit (wanted : String) : Document → Cause
  | .flawed => .flawed
  | d => .wrongType d.found wanted

end Document

end BulkWrite
