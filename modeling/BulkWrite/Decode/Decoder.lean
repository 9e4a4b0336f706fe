import BulkWrite.Decode.Cause
import BulkWrite.Json.Reader

/-!
# Decoders

A decoder takes a document to a value of a type, or says why it does not fit. The first unfit place
in the order of the text counts. Only a decoder that looks at a flaw fails because of it.
-/

namespace BulkWrite

/-- Takes a document to a value of type `α`. -/
abbrev Decoder (α : Type) := Dialect → Document → Except Cause α

namespace Decoder

variable {α β : Type}

def map (f : α → β) (d : Decoder α) : Decoder β :=
  fun dialect doc => (d dialect doc).map f

def text : Decoder String
  | _, .text s => .ok s
  | _, d => .error (d.unfit "a string")

def bool : Decoder Bool
  | _, .bool b => .ok b
  | _, d => .error (d.unfit "a boolean")

/-- A whole number below `2 ^ bits` that is not negative. -/
def natural (bits : Nat) (wanted : String) : Decoder Nat
  | _, .number (.whole n) =>
    if 0 ≤ n ∧ n < Nat.pow 2 bits then .ok n.toNat else .error (.outOfRange n wanted)
  | _, d => .error (d.unfit wanted)

def word16 : Decoder UInt16 :=
  map UInt16.ofNat (natural 16 "u16")

def word32 : Decoder UInt32 :=
  map UInt32.ofNat (natural 32 "u32")

def word64 : Decoder UInt64 :=
  map UInt64.ofNat (natural 64 "u64")

/-- A number of things, a 64-bit word. -/
def size : Decoder UInt64 :=
  map UInt64.ofNat (natural 64 "usize")

/-- A number, taken to the 32-bit format. -/
def single : Decoder Binary
  | _, .number (.whole n) => .ok (Format.single.ofInt n)
  | _, .number (.double x) | _, .number (.single x) => .ok (Format.single.ofBinary x)
  | _, d => .error (d.unfit "f32")

/-- Any value without flaws. -/
def value : Decoder Json :=
  fun _ d =>
    match d.toJson? with
    | some v => .ok v
    | none => .error .flawed

/-- The members of an object whose values are free. -/
def members : Decoder (List (String × Json))
  | _, .mapping ms =>
    match Document.membersToJson? ms [] with
    | some ms => .ok ms
    | none => .error .flawed
  | _, d => .error (d.unfit "a map")

/-- All items of a sequence; the first unfit one counts. -/
def list (item : Decoder α) : Decoder (List α)
  | dialect, .sequence ds => ds.mapM (item dialect)
  | _, d => .error (d.unfit "a sequence")

/-- Null, or what the decoder takes. -/
def optional (d : Decoder α) : Decoder (Option α)
  | _, .null => .ok none
  | dialect, doc => (d dialect doc).map some

/-- Reads a text and decodes what it holds. A text that is no document, and one with a flaw, gives
no cause of its own. -/
def decodeText (d : Decoder α) (s : String) : Except Cause α :=
  match Document.read? s with
  | none => .error .flawed
  | some doc =>
    match d .json doc with
    | .ok a => .ok a
    | .error cause => .error (if doc.isSound then cause else .flawed)

end Decoder

end BulkWrite
