import BulkWrite.Text.Blank

/-!
# Environments

An environment assigns values to variables. A value that is no text is there but cannot be read, and
counts as missing wherever a text is wanted.
-/

namespace BulkWrite

/-- The variables that are set, each with its value if that is a text. -/
structure Environment where
  assignments : List (String × Option String) := []
deriving DecidableEq, Repr, Inhabited

namespace Environment

def get? (env : Environment) (name : String) : Option String :=
  (env.assignments.lookup name).join

/-- The environment with a variable set, unless the variable has a text already. -/
def setDefault (env : Environment) (name value : String) : Environment :=
  match env.get? name with
  | some _ => env
  | none => ⟨(name, some value) :: env.assignments⟩

end Environment

end BulkWrite
