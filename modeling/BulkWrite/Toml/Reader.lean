import BulkWrite.Toml.Scalar
import BulkWrite.Toml.Table

/-!
# Reading a TOML document

A document is a sequence of lines: headers, which say in which table the lines below stand, and
assignments to dotted keys. `Toml.read?` gives the whole as one mapping whose members ascend by
name.
-/

namespace BulkWrite.Toml

def skipBlank (cs : List Char) : List Char :=
  cs.dropWhile fun c => c == ' ' || c == '\t'

def skipComment : List Char → Option (List Char)
  | '#' :: cs =>
    let comment := cs.takeWhile fun c => c != '\n' && c != '\r'
    if comment.any isForbidden then none
    else some (cs.dropWhile fun c => c != '\n' && c != '\r')
  | cs => some cs

/-- The text behind the end of a line, with blanks and a comment in front of it. -/
def endLine (cs : List Char) : Option (List Char) :=
  match skipComment (skipBlank cs) with
  | some [] => some []
  | some ('\n' :: cs) => some cs
  | some ('\r' :: '\n' :: cs) => some cs
  | _ => none

/-- The text behind blanks, comments and line ends. -/
def skipLines : Nat → List Char → Option (List Char)
  | 0, cs => some cs
  | fuel + 1, cs =>
    match skipBlank cs with
    | '\n' :: cs => skipLines fuel cs
    | '\r' :: '\n' :: cs => skipLines fuel cs
    | '#' :: cs =>
      match skipComment ('#' :: cs) with
      | some cs => skipLines fuel cs
      | none => none
    | cs => some cs

/-! ## Keys -/

/-- Whether a character may stand in a key without quotes. -/
def isKeyChar (c : Char) : Bool :=
  c.isAlphanum || c == '_' || c == '-'

def readName (cs : List Char) : Option (String × List Char) :=
  match cs with
  | '"' :: _ | '\'' :: _ => readLine cs
  | cs =>
    match cs.takeWhile isKeyChar with
    | [] => none
    | name => some (String.ofList name, cs.dropWhile isKeyChar)

/-- Reads a dotted key and the blanks around it. -/
def readKey : Nat → List Char → Option (List String × List Char)
  | 0, _ => none
  | fuel + 1, cs =>
    match readName (skipBlank cs) with
    | none => none
    | some (name, rest) =>
      match skipBlank rest with
      | '.' :: rest => (readKey fuel rest).map fun (names, rest) => (name :: names, rest)
      | rest => some ([name], rest)

/-- A key as the path to a table and the name in it. -/
def splitKey (names : List String) : List String × String :=
  (names.dropLast, names.getLast?.getD "")

/-! ## Values -/

/-- How deeply arrays and tables in place may be nested. -/
def nestingBound : Nat := 80

mutual

/-- Reads a value that `depth` others enclose. -/
def readValue : Nat → Nat → List Char → Option (Node × List Char)
  | 0, _, _ => none
  | fuel + 1, depth, cs =>
    match cs with
    | '"' :: _ | '\'' :: _ => (readText cs).map fun (s, rest) => (.leaf (.text s), rest)
    | '[' :: rest =>
      if depth < nestingBound then
        (readItems fuel (depth + 1) rest).map fun (items, rest) =>
          (.leaf (.sequence (items.map Node.toDocument)), rest)
      else none
    | '\x7b' :: rest =>
      if depth < nestingBound then
        match skipBlank rest with
        | '\x7d' :: rest => some (.table .inPlace [], rest)
        | rest =>
          (readMembers fuel (depth + 1) [] rest).map fun (members, rest) =>
            (.table .inPlace members, rest)
      else none
    | cs => (readWord cs).map fun (d, rest) => (.leaf d, rest)

def readItems : Nat → Nat → List Char → Option (List Node × List Char)
  | 0, _, _ => none
  | fuel + 1, depth, cs =>
    match skipLines cs.length cs with
    | none => none
    | some (']' :: rest) => some ([], rest)
    | some cs =>
      match readValue fuel depth cs with
      | none => none
      | some (node, rest) =>
        match skipLines rest.length rest with
        | some (',' :: rest) =>
          (readItems fuel depth rest).map fun (nodes, rest) => (node :: nodes, rest)
        | some (']' :: rest) => some ([node], rest)
        | _ => none

/-- Reads the members of a table in place, on top of those before them, and its closing brace. -/
def readMembers : Nat → Nat → Members → List Char → Option (Members × List Char)
  | 0, _, _, _ => none
  | fuel + 1, depth, before, cs =>
    match readKey cs.length cs with
    | some (names, '=' :: rest) =>
      match readValue fuel depth (skipBlank rest) with
      | none => none
      | some (node, rest) =>
        let (path, name) := splitKey names
        match before.assign path name node, skipBlank rest with
        | some members, ',' :: rest => readMembers fuel depth members rest
        | some members, '\x7d' :: rest => some (members, rest)
        | _, _ => none
    | _ => none

end

/-! ## Lines -/

/-- The root table, and the path of the table in which the next lines stand. -/
structure Position where
  root : Members := []
  current : List String := []

def readStatement (p : Position) (cs : List Char) : Option (Position × List Char) :=
  match cs with
  | '[' :: '[' :: cs =>
    match readKey cs.length cs with
    | some (names, ']' :: ']' :: rest) =>
      let (path, name) := splitKey names
      (p.root.openNext path name).map fun root => (⟨root, names⟩, rest)
    | _ => none
  | '[' :: cs =>
    match readKey cs.length cs with
    | some (names, ']' :: rest) =>
      let (path, name) := splitKey names
      (p.root.openTable path name).map fun root => (⟨root, names⟩, rest)
    | _ => none
  | cs =>
    match readKey cs.length cs with
    | some (names, '=' :: rest) =>
      match readValue (2 * rest.length + 2) 0 (skipBlank rest) with
      | none => none
      | some (node, rest) =>
        let (path, name) := splitKey names
        (p.root.at? .passed (fun ms => ms.assign path name node) p.current).map fun root =>
          ({ p with root }, rest)
    | _ => none

def readLines : Nat → Position → List Char → Option Position
  | 0, _, _ => none
  | fuel + 1, p, cs =>
    match skipLines cs.length cs with
    | none => none
    | some [] => some p
    | some cs =>
      match readStatement p cs with
      | none => none
      | some (p, rest) =>
        match endLine rest with
        | none => none
        | some rest => readLines fuel p rest

def skipMark : List Char → List Char
  | '\ufeff' :: cs => cs
  | cs => cs

/-- The mapping that a text holds; none if the text is no document. -/
def read? (s : String) : Option Document :=
  let cs := skipMark s.toList
  (readLines (cs.length + 1) {} cs).map fun p => .mapping (membersToDocuments p.root)

end BulkWrite.Toml
