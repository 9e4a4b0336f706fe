import BulkWrite.Json.Document

/-!
# Tables of a TOML document

A table may be opened by a header, be passed through by a longer header, be made by a dotted key, or
be written in place. What may be added to it later depends on this *origin*: a header opens only a
table that is new or was merely passed through; a dotted key extends only tables that dotted keys
made; a table in place is complete.
-/

namespace BulkWrite.Toml

inductive Origin where
  | header
  | passed
  | dotted
  | inPlace
deriving DecidableEq, Repr

/-- What a name stands for. -/
inductive Node where
  | leaf (d : Document)
  | table (origin : Origin) (members : List (String × Node))
  /-- Tables that one header opened each, the latest last. -/
  | tables (before : List (List (String × Node))) (last : List (String × Node))
deriving Inhabited

abbrev Members := List (String × Node)

namespace Members

/-- The members with a name set to another node. -/
def put (name : String) (node : Node) : Members → Members
  | [] => [(name, node)]
  | (other, n) :: rest =>
    if other = name then (name, node) :: rest else (other, n) :: put name node rest

/-- Whether a path leads through a table to the names behind it. No path leads into a table in
place. A dotted one leads through a table that no header opened, and ends only in one that dotted
keys made. -/
def leadsThrough (origin old : Origin) (path : List String) : Bool :=
  match origin, old with
  | _, .inPlace | .dotted, .header => false
  | .dotted, .passed => !path.isEmpty
  | _, _ => true

/-- Changes the table at the end of a path. Tables on the way that do not exist are made, with the
given origin. -/
def at? (origin : Origin) (f : Members → Option Members) : List String → Members → Option Members
  | [], members => f members
  | name :: path, members =>
    match members.lookup name with
    | none => (at? origin f path []).map fun ms => put name (.table origin ms) members
    | some (.table old ms) =>
      if leadsThrough origin old path then
        (at? origin f path ms).map fun ms => put name (.table old ms) members
      else none
    | some (.tables before last) =>
      if origin = .dotted then none
      else (at? origin f path last).map fun ms => put name (.tables before ms) members
    | some (.leaf _) => none

def assign (path : List String) (name : String) (node : Node) : Members → Option Members :=
  at? .dotted (fun members =>
    match members.lookup name with
    | none => some (members ++ [(name, node)])
    | some _ => none) path

def openTable (path : List String) (name : String) : Members → Option Members :=
  at? .passed (fun members =>
    match members.lookup name with
    | none => some (members ++ [(name, .table .header [])])
    | some (.table .passed ms) => some (put name (.table .header ms) members)
    | some _ => none) path

/-- Opens one more of several tables. -/
def openNext (path : List String) (name : String) : Members → Option Members :=
  at? .passed (fun members =>
    match members.lookup name with
    | none => some (members ++ [(name, .tables [] [])])
    | some (.tables before last) => some (put name (.tables (before ++ [last]) []) members)
    | some _ => none) path

end Members

/-! ## Documents -/

def insertMember (name : String) (d : Document) :
    List (Option String × Document) → List (Option String × Document)
  | [] => [(some name, d)]
  | (other, e) :: rest =>
    if name < other.getD "" then (some name, d) :: (other, e) :: rest
    else (other, e) :: insertMember name d rest

mutual

def Node.toDocument : Node → Document
  | .leaf d => d
  | .table _ members => .mapping (membersToDocuments members)
  | .tables before last =>
    .sequence (tablesToDocuments before ++ [.mapping (membersToDocuments last)])

/-- The members of a mapping, in ascending order. -/
def membersToDocuments : List (String × Node) → List (Option String × Document)
  | [] => []
  | (name, node) :: rest => insertMember name node.toDocument (membersToDocuments rest)

def tablesToDocuments : List (List (String × Node)) → List Document
  | [] => []
  | members :: rest => .mapping (membersToDocuments members) :: tablesToDocuments rest

end

end BulkWrite.Toml
