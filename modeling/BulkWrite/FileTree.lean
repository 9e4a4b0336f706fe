/-!
# Files around a working directory

A file tree holds the files that can be reached from a working directory and from the directories
above it. A path is read from the working directory; a file has no entries below it. One of the
files may be the running program, so that its directory can be searched as well.
-/

namespace BulkWrite

inductive FileEntry where
  | file (content : ByteArray)
  | directory
  /-- The file of the running program, which is no text. -/
  | program

/-- Where something is: so many directories up from the working directory, then down by name. -/
structure Place where
  up : Nat
  down : List String
deriving DecidableEq, Repr

namespace Place

/-- The place after one more part of a path. -/
def walk (p : Place) (part : String) : Place :=
  if part = "" ∨ part = "." then p
  else if part = ".." then
    if p.down.isEmpty then { p with up := p.up + 1 } else { p with down := p.down.dropLast }
  else { p with down := p.down ++ [part] }

def ofPath (path : String) : Place :=
  ((path.toList.splitOn '/').map String.ofList).foldl walk ⟨0, []⟩

/-- A path that leads to a place. -/
def path (p : Place) : String :=
  "/".intercalate (List.replicate p.up ".." ++ p.down)

def parent (p : Place) : Place :=
  { p with down := p.down.dropLast }

def child (p : Place) (name : String) : Place :=
  { p with down := p.down ++ [name] }

end Place

/-- The entries that were put somewhere. -/
structure FileTree where
  entries : List (Place × FileEntry) := []

namespace FileTree

/-- Whether a place is a directory that an entry needs, or one that is always there: the working
directory and those above it. -/
def isImplied (t : FileTree) (p : Place) : Bool :=
  p.down.isEmpty || t.entries.any fun (q, _) => q.up == p.up && p.down.isPrefixOf q.down && p != q

/-- What is at a path. A path that ends as a directory's does leads to no file. -/
def find? (t : FileTree) (path : String) : Option FileEntry :=
  if path = "" ∨ path.toList.head? = some '/' then none
  else
    let place := Place.ofPath path
    match t.entries.lookup place with
    | some .directory => some .directory
    | some entry => if path.toList.getLast? = some '/' then none else some entry
    | none => if t.isImplied place then some .directory else none

/-- The extension of the last part of a path: what follows its last dot, unless that is its first
character. -/
def extension? (path : String) : Option String :=
  match (Place.ofPath path).down.getLast? with
  | none => none
  | some name =>
    match name.toList.reverse.span (· != '.') with
    | (_, []) | (_, ['.']) => none
    | (reversed, _) => some (String.ofList reversed.reverse)

/-- How many directories up from the working directory there are entries. -/
def height (t : FileTree) : Nat :=
  (t.entries.map fun (p, _) => p.up).max?.getD 0

/-- The content of the file at a place. -/
def content? (t : FileTree) (p : Place) : Option ByteArray :=
  match t.entries.lookup p with
  | some (.file content) => some content
  | _ => none

/-- The content of the nearest file of a name in the working directory or in any directory above
it. -/
def nearest? (t : FileTree) (name : String) : Option ByteArray :=
  (List.range (t.height + 1)).findSome? fun up => t.content? ⟨up, [name]⟩

/-- The directory of the running program, if it is known. -/
def programDirectory? (t : FileTree) : Option Place :=
  t.entries.findSome? fun
    | (p, .program) => some p.parent
    | _ => none

end FileTree

end BulkWrite
