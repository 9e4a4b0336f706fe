import BulkWrite.Environment
import BulkWrite.Error
import BulkWrite.Text.Keyword

/-!
# Log formats

Log lines are written as text or as documents. The format is taken from the environment, and it is
set once for the whole process.
-/

namespace BulkWrite

inductive LogFormat where
  | text
  | json
deriving DecidableEq, Repr, Inhabited

namespace LogFormat

def vocabulary : Vocabulary LogFormat :=
  ⟨"LogFormat", [("text", .text), ("json", .json)]⟩

def name : LogFormat → String
  | .text => "text"
  | .json => "json"

def variableName : String := "BATCHLINE_LOG_FORMAT"

/-- The format that an environment names; text if it names none. -/
def ofEnvironment (env : Environment) : LogFormat :=
  match (env.get? variableName).map vocabulary.parse? with
  | some (.ok format) => format
  | _ => .text

def alreadySet : Error :=
  .internal "tracing already initialized: a global default trace dispatcher has already been set"

/-- Sets the format of the process, unless it has one. -/
def install (current : Option LogFormat) (format : LogFormat) : Except Error LogFormat :=
  match current with
  | none => .ok format
  | some _ => .error alreadySet

end LogFormat

end BulkWrite
