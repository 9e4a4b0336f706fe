import BulkWrite.Decode.Choice

/-!
# Errors of the library

What can go wrong outside the submission of a batch: in its construction, its configuration and its
life cycle. In a document an error is a pair of its type and its message.
-/

namespace BulkWrite

inductive Error where
  | config (message : String)
  | network (message : String)
  | invalidInput (message : String)
  | shutdown (message : String)
  | internal (message : String)
deriving DecidableEq, Repr, Inhabited

namespace Error

def vocabulary : Vocabulary (String → Error) :=
  ⟨"BatchlineError", [("Config", .config), ("Network", .network), ("InvalidInput", .invalidInput),
    ("Shutdown", .shutdown), ("Internal", .internal)]⟩

def type : Error → String
  | .config _ => "Config"
  | .network _ => "Network"
  | .invalidInput _ => "InvalidInput"
  | .shutdown _ => "Shutdown"
  | .internal _ => "Internal"

def message : Error → String
  | .config m | .network m | .invalidInput m | .shutdown m | .internal m => m

def describe : Error → String
  | .config m => s!"Configuration error: {m}"
  | .network m => s!"Network error: {m}"
  | .invalidInput m => s!"Invalid input: {m}"
  | .shutdown m => s!"Batcher is shut down: {m}"
  | .internal m => s!"Internal error: {m}"

/-! ## Documents -/

def toJson (e : Error) : Json :=
  .object [("type", .text e.type), ("message", .text e.message)]

def typeField : String := "type"

def messageField : String := "message"

/-- Demands that neither of the two fields occurs again. -/
def noMore : List (Option String × Document) → Except Cause Unit
  | [] => .ok ()
  | (name, _) :: _ => .error (.duplicateField (name.getD ""))

/-- The message behind a known type, and nothing behind it. -/
def withType (dialect : Dialect) (make : String → Error) :
    List (Option String × Document) → Except Cause Error
  | [] => .error (.missingField messageField)
  | (name, d) :: rest =>
    if name = some typeField then .error (.duplicateField typeField)
    else do
      let m ← Decoder.text dialect d
      noMore rest
      return make m

/-- The type behind a message that was kept until now, and nothing behind it. -/
def withMessage (dialect : Dialect) (message : Document) :
    List (Option String × Document) → Except Cause Error
  | [] => .error (.missingField typeField)
  | (name, d) :: rest =>
    if name = some messageField then .error (.duplicateField messageField)
    else do
      let make ← vocabulary.decoder dialect d
      let m ← Decoder.text dialect message
      noMore rest
      return make m

/-- An error among the members of a mapping; other members than its two fields do not count. -/
def fromMembers (dialect : Dialect) (members : List (Option String × Document)) :
    Except Cause Error :=
  match members.filter fun (name, _) => name = some typeField ∨ name = some messageField with
  | [] => .error (.missingField typeField)
  | (name, d) :: rest =>
    if name = some typeField then do
      let make ← vocabulary.decoder dialect d
      withType dialect make rest
    else if d.isSound then withMessage dialect d rest
    else .error .flawed

/-- What messages call an error. -/
def wanted : String := "adjacently tagged enum BatchlineError"

def decoder : Decoder Error
  | dialect, .mapping members =>
    if members.all (·.1.isSome) then fromMembers dialect members else .error .flawed
  | _, .sequence [] => .error (.wrongLength 0 wanted)
  | dialect, .sequence (d :: items) => do
    let make ← vocabulary.decoder dialect d
    match items with
    | [] => throw (.wrongLength 1 wanted)
    | [d] => return make (← Decoder.text dialect d)
    | d :: _ =>
      let _ ← Decoder.text dialect d
      throw .leftOver
  | _, d => .error (d.unfit wanted)

end Error

end BulkWrite
