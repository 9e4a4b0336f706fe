import BulkWrite.Environment

/-!
# Values in an environment file

A value may be quoted, escaped, and refer to other variables: `$name`, or any name between braces.
Blanks behind it end it, after which only a comment may follow. Single quotes take everything as it
is; double quotes leave escapes and references alive.
-/

namespace BulkWrite.Dotenv

/-- What is known of variables while a file is read: the environment, and the values in the file so
far, the latest first. -/
structure Scope where
  environment : Environment
  assigned : List (String × String) := []

/-- What a reference stands for; the environment comes first, and an unknown name stands for
nothing. -/
def Scope.resolve (scope : Scope) (name : String) : List Char :=
  match scope.environment.get? name with
  | some value => value.toList
  | none => ((scope.assigned.lookup name).getD "").toList

/-- What the next character of a value belongs to. -/
inductive Mode where
  | bare
  /-- The value, between double quotes. -/
  | weak
  /-- The value, between single quotes. -/
  | strong
  /-- An escape, after which the value goes on as said. -/
  | escape (weak : Bool)
  /-- A reference without braces; the name so far is backwards. -/
  | name (weak : Bool) (reversed : List Char)
  | braced (weak : Bool) (reversed : List Char)
  /-- What is behind the value. -/
  | behind
deriving DecidableEq

/-- The mode in which a value goes on. -/
def Mode.open (weak : Bool) : Mode :=
  if weak then .weak else .bare

def nameOf (reversed : List Char) : String :=
  String.ofList reversed.reverse

def unescape? : Char → Option Char
  | 'n' => some '\n'
  | c => if c == '\\' || c == '\'' || c == '"' || c == '$' || c == ' ' then some c else none

/-- The value that characters form from a mode on, on top of the output so far, which is backwards.
None if they form no value. -/
def evaluate (scope : Scope) : Mode → (output : List Char) → List Char → Option (List Char)
  | mode, output, [] =>
    match mode with
    | .bare | .escape false | .behind => some output.reverse
    | .name false reversed => some (output.reverse ++ scope.resolve (nameOf reversed))
    | .escape true | .name true _ | .weak | .strong | .braced _ _ => none
  | mode, output, c :: cs =>
    match mode with
    | .behind =>
      if c == ' ' || c == '\t' then evaluate scope .behind output cs
      else if c == '#' then some output.reverse
      else none
    | .escape weak =>
      match unescape? c with
      | some c => evaluate scope (.open weak) (c :: output) cs
      | none => none
    | .strong =>
      if c == '\'' then evaluate scope .bare output cs else evaluate scope .strong (c :: output) cs
    | .name weak reversed =>
      if c.isAlphanum then evaluate scope (.name weak (c :: reversed)) output cs
      else if c == '\x7b' && reversed.isEmpty then evaluate scope (.braced weak []) output cs
      else
        let output := (scope.resolve (nameOf reversed)).reverse ++ output
        if c == '$' then evaluate scope (.name weak []) output cs
        else evaluate scope (.open weak) (c :: output) cs
    | .braced weak reversed =>
      if c == '\x7d' then
        evaluate scope (.open weak) ((scope.resolve (nameOf reversed)).reverse ++ output) cs
      else evaluate scope (.braced weak (c :: reversed)) output cs
    | .weak =>
      if c == '$' then evaluate scope (.name true []) output cs
      else if c == '"' then evaluate scope .bare output cs
      else if c == '\\' then evaluate scope (.escape true) output cs
      else evaluate scope .weak (c :: output) cs
    | .bare =>
      if c == '$' then evaluate scope (.name false []) output cs
      else if c == '\'' then evaluate scope .strong output cs
      else if c == '"' then evaluate scope .weak output cs
      else if c == '\\' then evaluate scope (.escape false) output cs
      else if c == ' ' || c == '\t' then evaluate scope .behind output cs
      else evaluate scope .bare (c :: output) cs

/-- The value that a text denotes. -/
def value? (scope : Scope) (cs : List Char) : Option String :=
  (evaluate scope .bare [] cs).map String.ofList

end BulkWrite.Dotenv
