import BulkWrite.Text.Blank

/-!
# Keywords

A *vocabulary* is a finite list of values with one small-letter spelling each. People write keywords
in any letter case and with blanks around them, so `Vocabulary.parse?` folds both away; programs
write them exactly, which `Vocabulary.find?` asks for.
-/

namespace BulkWrite

/-- The values of a keyword type, each with its spelling. -/
structure Vocabulary (α : Type) where
  name : String
  /-- The values, in the order in which messages list their spellings. -/
  entries : List (String × α)

namespace Vocabulary

variable {α : Type}

def spellings (v : Vocabulary α) : List String :=
  v.entries.map (·.1)

/-- The value with exactly this spelling. -/
def find? (v : Vocabulary α) (s : String) : Option α :=
  v.entries.lookup s

/-- The value that a person meant: blanks around the word and ASCII letter case do not count. The
error says which word was not understood, as it was given. -/
def parse? (v : Vocabulary α) (s : String) : Except String α :=
  match v.find? (Text.foldCase (Text.trim s)) with
  | some a => .ok a
  | none => .error s!"Invalid {v.name}: {s}"

end Vocabulary

end BulkWrite
