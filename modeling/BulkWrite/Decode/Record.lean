import BulkWrite.Decode.Decoder

/-!
# Records

A record is a mapping from the names of its fields, in any order, or a sequence of them in the order
of declaration. `Fields` describes the fields of a record one after the other:

  `Point.mk <$> .required "x" number <*> .absentAs "y" 0 number`

The fields are decoded where they stand, and the first unfit place in the order of the document is
the one that counts. So every cause is *placed*: fields stand at the place of their member or item,
a second member of one name at its own place, and a missing field behind all members.
-/

namespace BulkWrite

/-- A value, or a cause with its place in the document. -/
abbrev Placed (α : Type) := Except (Nat × Cause) α

namespace Placed

variable {α β : Type}

/-- The earlier of two causes; at one place the first. -/
def earlier (e₁ e₂ : Nat × Cause) : Nat × Cause :=
  if e₂.1 < e₁.1 then e₂ else e₁

/-- Both values, or the earlier cause. -/
def apply (f : Placed (α → β)) (x : Placed α) : Placed β :=
  match f, x with
  | .ok f, .ok a => .ok (f a)
  | .ok _, .error e => .error e
  | .error e, .ok _ => .error e
  | .error e₁, .error e₂ => .error (earlier e₁ e₂)

end Placed

inductive Slot where
  /-- At a place, and perhaps a second time at a later one. -/
  | present (place : Nat) (d : Document) (again : Option Nat)
  /-- Nowhere; the place and the cause count if the field is required. -/
  | absent (place : Nat) (cause : Cause)

/-- The fields of a record: how many there are, and the value that they make together. A field is
asked for by its index and its name. -/
structure Fields (α : Type) where
  count : Nat
  read : Dialect → (index : Nat) → (Nat → String → Slot) → Placed α

namespace Fields

variable {α β : Type}

instance : Applicative Fields where
  pure a := ⟨0, fun _ _ _ => .ok a⟩
  seq f x :=
    ⟨f.count + (x ()).count, fun dialect index slot =>
      (f.read dialect index slot).apply ((x ()).read dialect (index + f.count) slot)⟩

/-- A field whose value is `default` where it is absent; without a default it is required. -/
def field (name : String) (default : Option α) (d : Decoder α) : Fields α :=
  ⟨1, fun dialect index slot =>
    match slot index name with
    | .present place doc again =>
      match d dialect doc, again with
      | .error cause, _ => .error (place, cause)
      | .ok _, some place => .error (place, .duplicateField name)
      | .ok a, none => .ok a
    | .absent place cause =>
      match default with
      | some a => .ok a
      | none => .error (place, cause)⟩

def required (name : String) (d : Decoder α) : Fields α :=
  field name none d

def absentAs (name : String) (default : α) (d : Decoder α) : Fields α :=
  field name (some default) d

def optional (name : String) (d : Decoder α) : Fields (Option α) :=
  field name (some none) d.optional

/-! ## The two forms of a record -/

/-- The place and the document of the first member of the given name, from `place` on, and the
members behind it. -/
def find? (name : String) :
    Nat → List (Option String × Document) →
      Option (Nat × Document × List (Option String × Document))
  | _, [] => none
  | place, (other, d) :: ms =>
    if other = some name then some (place, d, ms) else find? name (place + 1) ms

/-- Where a field stands among the members of a mapping. -/
def memberSlot (members : List (Option String × Document)) (name : String) : Slot :=
  match find? name 0 members with
  | some (place, d, rest) => .present place d ((find? name (place + 1) rest).map (·.1))
  | none => .absent members.length (.missingField name)

/-- Where a field stands among the items of a sequence. -/
def itemSlot (items : List Document) (wanted : String) (index : Nat) : Slot :=
  match items[index]? with
  | some d => .present index d none
  | none => .absent index (.wrongLength index wanted)

def elements (n : Nat) : String :=
  if n = 1 then "1 element" else s!"{n} elements"

def fromMembers (fields : Fields α) (dialect : Dialect)
    (members : List (Option String × Document)) : Except Cause α :=
  if members.all (·.1.isSome) then
    (fields.read dialect 0 fun _ name => memberSlot members name).mapError (·.2)
  else .error .flawed

/-- The value of the fields in a sequence. A missing one is counted against all of `wanted`; items
behind the last field go unread. -/
def fromItems (fields : Fields α) (dialect : Dialect) (wanted : String) (items : List Document) :
    Except Cause α :=
  (fields.read dialect 0 fun index _ => itemSlot items wanted index).mapError (·.2)

/-- A record in either form. In one dialect the sequence must end with the last field. -/
def record (name : String) (fields : Fields α) : Decoder α
  | dialect, .mapping members => fields.fromMembers dialect members
  | dialect, .sequence items => do
    let a ← fields.fromItems dialect s!"struct {name} with {elements fields.count}" items
    if dialect = .json ∧ fields.count < items.length then throw .leftOver
    return a
  | _, d => .error (d.unfit s!"struct {name}")

end Fields

end BulkWrite
