import BulkWrite.Dotenv.Lines
import BulkWrite.Dotenv.Value

/-!
# Environment files

An environment file assigns variables that the environment leaves open. The first assignment to a
variable counts, and those in front of the first line that is none count.
-/

namespace BulkWrite.Dotenv

/-- Reads the name of a variable, and the text behind it. -/
def readName (cs : List Char) : Option (String × List Char) :=
  let isNameChar c := c.isAlphanum || c == '_' || c == '.'
  match cs with
  | [] => none
  | c :: _ =>
    if c.isAlpha || c == '_' then
      some (String.ofList (cs.takeWhile isNameChar), cs.dropWhile isNameChar)
    else none

def skipBlank (cs : List Char) : List Char :=
  cs.dropWhile Text.isBlank

/-- Reads the name and the sign of an assignment, with or without the word in front that exports the
variable. -/
def readTarget (cs : List Char) : Option (String × List Char) :=
  match readName cs with
  | none => none
  | some (name, rest) =>
    match skipBlank rest with
    | '=' :: rest => some (name, skipBlank rest)
    | rest =>
      if name = "export" then
        match readName rest with
        | none => none
        | some (name, rest) =>
          match skipBlank rest with
          | '=' :: rest => some (name, skipBlank rest)
          | _ => none
      else none

inductive Statement where
  | nothing
  | assign (name value : String)
  | wrong

def statement (scope : Scope) (line : List Char) : Statement :=
  match skipBlank (Text.trimEnd line) with
  | [] | '#' :: _ => .nothing
  | cs =>
    match readTarget cs with
    | none => .wrong
    | some (name, []) | some (name, '#' :: _) => .assign name ""
    | some (name, rest) =>
      match value? scope rest with
      | some value => .assign name value
      | none => .wrong

def run (scope : Scope) : List (Option (List Char)) → Environment
  | [] | none :: _ => scope.environment
  | some line :: lines =>
    match statement scope line with
    | .nothing => run scope lines
    | .wrong => scope.environment
    | .assign name value =>
      run ⟨scope.environment.setDefault name value, (name, value) :: scope.assigned⟩ lines

/-- Bytes up to and with each line feed. -/
def splitLines : (line : List UInt8) → List UInt8 → List (List UInt8)
  | line, [] => if line.isEmpty then [] else [line.reverse]
  | line, b :: bytes =>
    if b = 10 then (b :: line).reverse :: splitLines [] bytes else splitLines (b :: line) bytes

/-- The bytes without a byte order mark at their start. -/
def skipMark : List UInt8 → List UInt8
  | 0xEF :: 0xBB :: 0xBF :: bytes => bytes
  | bytes => bytes

/-- The environment after a file. -/
def apply (env : Environment) (file : ByteArray) : Environment :=
  let lines := (splitLines [] (skipMark file.toList)).map fun line =>
    (String.fromUTF8? ⟨line.toArray⟩).map String.toList
  run { environment := env } (assignments .complete [] lines)

end BulkWrite.Dotenv
