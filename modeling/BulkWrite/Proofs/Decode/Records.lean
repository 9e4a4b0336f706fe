import Mathlib.Data.List.Forall2
import Mathlib.Tactic.Lemma
import BulkWrite.Decode.Record
import BulkWrite.Proofs.Json.Values

/-!
# What a record is made of

A record is a mapping or a sequence, and what it has for a field is the only member of the field's
name or the item at the field's index (`Document.Part`). A decoder of records succeeds just when its
document is a record, and each of its fields accepts its part (`Fields.record_eq_ok_iff`,
`Fields.read_field_iff`). So where the members stand, which others there are, and which of the two
forms the record has, makes no difference to the value.
-/

namespace BulkWrite

/-! ## Parts of a record -/

namespace Document

/-- Whether a document is a record of so many fields: a mapping whose names can all be read, or a
sequence of no more items. -/
def IsRecord (count : Nat) : Document → Prop
  | .mapping members => ∀ m ∈ members, m.1.isSome
  | .sequence items => items.length ≤ count
  | _ => False

/-- What a record has for a field, if not more than one document: the members of its name, or the
item at its index. Other documents have nothing for any field. -/
def Part (index : Nat) (name : String) (part : Option Document) : Document → Prop
  | .mapping members => (members.filter (·.1 = some name)).map Prod.snd = part.toList
  | .sequence items => items[index]? = part
  | _ => part = none

/-- What a record has for a field is nothing, or null. -/
def Lacks (index : Nat) (name : String) (d : Document) : Prop :=
  d.Part index name none ∨ d.Part index name (some .null)

/-- The slots of the fields of a record, where a missing item is counted against `wanted`. -/
def slot (wanted : String) : Document → Nat → String → Slot
  | .mapping members, _, name => Fields.memberSlot members name
  | .sequence items, index, _ => Fields.itemSlot items wanted index
  | _, _, name => .absent 0 (.missingField name)

end Document

/-- What stands in a slot, unless something stands there twice. -/
def Slot.part? : Slot → Option (Option Document)
  | .present _ d none => some (some d)
  | .present _ _ (some _) => none
  | .absent _ _ => some none

namespace Fields

variable {α β : Type}

lemma find?_eq_none_iff {name : String} {members : List (Option String × Document)} {place : Nat} :
    find? name place members = none ↔ members.filter (·.1 = some name) = [] := by
  induction members generalizing place with
  | nil => simp [find?]
  | cons m members ih =>
    obtain ⟨other, d⟩ := m
    by_cases hname : other = some name
    · simp [find?, hname]
    · simp [find?, hname, ih]

lemma filter_of_find? {name : String} {members rest : List (Option String × Document)}
    {place place' : Nat} {d : Document} (h : find? name place members = some (place', d, rest)) :
    members.filter (·.1 = some name) = (some name, d) :: rest.filter (·.1 = some name) := by
  induction members generalizing place with
  | nil => cases h
  | cons m members ih =>
    obtain ⟨other, d'⟩ := m
    by_cases hname : other = some name
    · rw [find?, if_pos hname] at h
      obtain ⟨-, rfl, rfl⟩ : place = place' ∧ d' = d ∧ members = rest := by simpa using h
      simp [hname]
    · rw [find?, if_neg hname] at h
      simpa [hname] using ih h

/-- A member slot holds the documents of the members of its name. -/
lemma part?_memberSlot {members : List (Option String × Document)} {name : String}
    {part : Option Document} : (memberSlot members name).part? = some part ↔
      (members.filter (·.1 = some name)).map Prod.snd = part.toList := by
  unfold memberSlot
  cases hfirst : find? name 0 members with
  | none =>
    rw [find?_eq_none_iff.mp hfirst]
    cases part <;> simp [Slot.part?]
  | some found =>
    obtain ⟨place, d, rest⟩ := found
    rw [filter_of_find? hfirst]
    cases hsecond : find? name (place + 1) rest with
    | none =>
      have hnone := find?_eq_none_iff.mp hsecond
      cases part <;> simp [Slot.part?, hsecond, hnone]
    | some again =>
      have hsome : rest.filter (·.1 = some name) ≠ [] := by
        intro hnone
        rw [find?_eq_none_iff.mpr hnone] at hsecond
        cases hsecond
      cases part with
      | none => simp [Slot.part?, hsecond]
      | some d' => simpa [Slot.part?, hsecond] using fun _ => hsome

lemma part?_itemSlot {items : List Document} {wanted : String} {index : Nat}
    {part : Option Document} : (itemSlot items wanted index).part? = some part ↔
      items[index]? = part := by
  unfold itemSlot
  cases items[index]? <;> simp [Slot.part?]

lemma part?_slot {d : Document} (wanted : String) {name : String} {index : Nat}
    {part : Option Document} :
    (d.slot wanted index name).part? = some part ↔ d.Part index name part := by
  cases d with
  | mapping members => exact part?_memberSlot
  | sequence items => exact part?_itemSlot
  | null | bool | number | text | flawed =>
    cases part <;> simp [Document.slot, Document.Part, Slot.part?]

/-! ## Fields -/

variable {fields : Fields α} {f : α → β} {wanted name : String} {dialect : Dialect} {index : Nat}
  {slot : Nat → String → Slot} {d : Document} {a : α} {b : β}

@[simp] lemma count_map (f : α → β) (fields : Fields α) : (f <$> fields).count = fields.count :=
  Nat.zero_add fields.count

lemma read_map_iff : (f <$> fields).read dialect index slot = .ok b ↔
    ∃ a, fields.read dialect index slot = .ok a ∧ f a = b := by
  show (Placed.apply (.ok f) (fields.read dialect index slot)) = .ok b ↔ _
  cases fields.read dialect index slot <;> simp [Placed.apply]

lemma read_seq_iff {first : Fields (α → β)} :
    (first <*> fields).read dialect index slot = .ok b ↔
      ∃ g a, first.read dialect index slot = .ok g ∧
        fields.read dialect (index + first.count) slot = .ok a ∧ g a = b := by
  show (Placed.apply (first.read dialect index slot)
    (fields.read dialect (index + first.count) slot)) = .ok b ↔ _
  cases first.read dialect index slot <;>
    cases fields.read dialect (index + first.count) slot <;> simp [Placed.apply]

/-- A field is read from its part; where it has none, its default counts. -/
lemma read_field_iff {default : Option α} {decoder : Decoder α} :
    (field name default decoder).read dialect index (d.slot wanted) = .ok a ↔
      (d.Part index name none ∧ default = some a) ∨
        ∃ part, d.Part index name (some part) ∧ decoder dialect part = .ok a := by
  simp only [← part?_slot wanted, field]
  cases d.slot wanted index name with
  | absent place cause =>
    cases default <;> simp [Slot.part?]
  | present place part again =>
    cases hpart : decoder dialect part <;> cases again <;> simp [Slot.part?, hpart]

lemma read_required_iff {decoder : Decoder α} :
    (required name decoder).read dialect index (d.slot wanted) = .ok a ↔
      ∃ part, d.Part index name (some part) ∧ decoder dialect part = .ok a := by
  simp [required, read_field_iff]

lemma read_absentAs_iff {default : α} {decoder : Decoder α} :
    (absentAs name default decoder).read dialect index (d.slot wanted) = .ok a ↔
      (d.Part index name none ∧ default = a) ∨
        ∃ part, d.Part index name (some part) ∧ decoder dialect part = .ok a := by
  simp [absentAs, read_field_iff]

lemma optional_eq_ok_iff {decoder : Decoder α} {o : Option α} :
    decoder.optional dialect d = .ok o ↔
      (d = .null ∧ o = none) ∨ ∃ a, d ≠ .null ∧ decoder dialect d = .ok a ∧ o = some a := by
  have hother (hnull : d ≠ .null) : decoder.optional dialect d = (decoder dialect d).map some := by
    cases d with
    | null => exact absurd rfl hnull
    | _ => rfl
  by_cases hnull : d = .null
  · subst hnull
    simp [Decoder.optional, eq_comm]
  · rw [hother hnull]
    cases decoder dialect d <;> simp [Except.map, hnull, eq_comm]

lemma read_optional_iff {decoder : Decoder α} {o : Option α} :
    (optional name decoder).read dialect index (d.slot wanted) = .ok o ↔
      (d.Lacks index name ∧ o = none) ∨
        ∃ part a, d.Part index name (some part) ∧ part ≠ .null ∧ decoder dialect part = .ok a ∧
          o = some a := by
  rw [optional, read_field_iff]
  simp only [optional_eq_ok_iff, Option.some.injEq]
  constructor
  · rintro (⟨hnone, rfl⟩ | ⟨part, hpart, ⟨rfl, rfl⟩ | ⟨a, hnull, hdecode, rfl⟩⟩)
    · exact .inl ⟨.inl hnone, rfl⟩
    · exact .inl ⟨.inr hpart, rfl⟩
    · exact .inr ⟨part, a, hpart, hnull, hdecode, rfl⟩
  · rintro (⟨hnone | hpart, rfl⟩ | ⟨part, a, hpart, hnull, hdecode, rfl⟩)
    · exact .inl ⟨hnone, rfl⟩
    · exact .inr ⟨.null, hpart, .inl ⟨rfl, rfl⟩⟩
    · exact .inr ⟨part, hpart, .inr ⟨a, hnull, hdecode, rfl⟩⟩

/-- A record has no two things for one field. -/
lemma part_unique {part part' : Option Document} (h : d.Part index name part)
    (h' : d.Part index name part') : part = part' :=
  Option.some.inj (((part?_slot "").mpr h).symm.trans ((part?_slot "").mpr h'))

/-! ## Records -/

lemma mapError_eq_ok_iff {ε ε' : Type} {g : ε → ε'} {x : Except ε α} :
    x.mapError g = .ok a ↔ x = .ok a := by
  cases x <;> simp [Except.mapError]

lemma bind_eq_ok_iff {ε : Type} {x : Except ε α} {f : α → Except ε β} {b : β} :
    x.bind f = .ok b ↔ ∃ a, x = .ok a ∧ f a = .ok b := by
  cases x <;> simp [Except.bind]

/-- A document holds a record just when all of its fields can be read. -/
theorem record_eq_ok_iff : record name fields .json d = .ok a ↔ d.IsRecord fields.count ∧
    fields.read .json 0 (d.slot s!"struct {name} with {elements fields.count}") = .ok a := by
  cases d with
  | mapping members =>
    rw [record, fromMembers, Document.IsRecord, ← List.all_eq_true]
    by_cases hnames : members.all (·.1.isSome)
    · rw [if_pos hnames, mapError_eq_ok_iff]
      exact (and_iff_right hnames).symm
    · simp [hnames]
  | sequence items =>
    rw [record, fromItems, Document.IsRecord]
    generalize s!"struct {name} with {elements fields.count}" = wanted
    show _ ↔ _ ∧ fields.read .json 0 (fun index _ => itemSlot items wanted index) = .ok a
    cases hread : fields.read .json 0 fun index _ => itemSlot items wanted index with
    | error e => simp [Except.mapError, bind, Except.bind]
    | ok a' =>
      by_cases hlength : items.length ≤ fields.count
      · simp [Except.mapError, bind, Except.bind, pure, Except.pure, hlength,
          Nat.not_lt.mpr hlength]
      · have hleft : Dialect.json = .json ∧ fields.count < items.length := ⟨rfl, by omega⟩
        simp [Except.mapError, bind, Except.bind, hlength, hleft]
  | null | bool | number | text | flawed => simp [record, Document.IsRecord]

end Fields

/-! ## Records of known parts -/

/-- Of a document the decoder makes this value, or none. -/
def Decoder.Makes {α : Type} (decoder : Decoder α) (d : Document) (value : Option α) : Prop :=
  ∀ a, decoder .json d = .ok a ↔ value = some a

lemma Decoder.makes_of_eq {α : Type} {decoder : Decoder α} {d : Document} {a : α}
    (h : decoder .json d = .ok a) : decoder.Makes d (some a) := by
  intro b
  rw [h, Except.ok.injEq, Option.some.injEq]

lemma Decoder.makes_toOption {α : Type} {decoder : Decoder α} {d : Document} :
    decoder.Makes d (decoder .json d).toOption := by
  intro a
  cases decoder .json d <;> simp [Except.toOption]

namespace Fields

variable {α β : Type} {fields : Fields α} {first : Fields (α → β)} {f : α → β} {name : String}
  {index : Nat} {d part : Document} {value : Option α} {decoder : Decoder α} {default : Option α}

/-- From a record the fields make this value, or none. -/
def Make (fields : Fields α) (d : Document) (index : Nat) (value : Option α) : Prop :=
  ∀ wanted a, fields.read .json index (d.slot wanted) = .ok a ↔ value = some a

lemma Make.map (h : fields.Make d index value) : (f <$> fields).Make d index (value.map f) := by
  intro wanted b
  rw [read_map_iff, Option.map_eq_some_iff]
  simp only [h wanted]

lemma Make.seq {g : Option (α → β)} (hfirst : first.Make d index g)
    (h : fields.Make d (index + first.count) value) :
    (first <*> fields).Make d index (g.bind fun g => value.map g) := by
  intro wanted b
  simp only [read_seq_iff, hfirst wanted, h wanted, Option.bind_eq_some_iff,
    Option.map_eq_some_iff, exists_and_left]

/-- A field makes of its part what its decoder does. -/
lemma Make.of_part (h : d.Part index name (some part)) (hpart : decoder.Makes part value) :
    (field name default decoder).Make d index value := by
  intro wanted a
  rw [read_field_iff, ← hpart a]
  constructor
  · rintro (⟨hnone, -⟩ | ⟨part', hpart', hdecode⟩)
    · cases part_unique h hnone
    · cases part_unique h hpart'
      exact hdecode
  · exact fun hdecode => .inr ⟨part, h, hdecode⟩

/-- Without a part it makes its default. -/
lemma Make.of_absent (h : d.Part index name none) :
    (field name default decoder).Make d index default := by
  intro wanted a
  rw [read_field_iff]
  constructor
  · rintro (⟨-, hdefault⟩ | ⟨part, hpart, -⟩)
    · exact hdefault
    · cases part_unique h hpart
  · exact fun hdefault => .inl ⟨h, hdefault⟩

lemma Make.of_optional (h : d.Part index name (some part)) (hnull : part ≠ .null)
    (hpart : decoder.Makes part value) :
    (optional name decoder).Make d index (value.map some) := by
  refine Make.of_part h fun o => ?_
  rw [optional_eq_ok_iff, Option.map_eq_some_iff]
  simp only [hnull, false_and, false_or, ne_eq, not_false_eq_true, true_and, hpart _, eq_comm]

/-- Nothing counts as null. -/
lemma Make.optional {part : Option Document} (h : d.Part index name part) :
    (Fields.optional name decoder).Make d index
      (decoder.optional .json (part.getD .null)).toOption := by
  cases part with
  | none => exact .of_absent h
  | some part => exact .of_part h Decoder.makes_toOption

/-- A record makes what its fields do. -/
lemma Make.record (h : fields.Make d 0 value) (hrecord : d.IsRecord fields.count) (name : String) :
    (Fields.record name fields).Makes d value := by
  intro a
  rw [record_eq_ok_iff, h, and_iff_right hrecord]

end Fields

/-! ## Other values -/

namespace Decoder

variable {α : Type} {decoder : Decoder α} {d : Document}

lemma text_eq_ok_iff {s : String} : text .json d = .ok s ↔ d = .text s := by
  cases d <;> simp [text]

lemma value_eq_ok_iff {v : Json} : value .json d = .ok v ↔ d.toJson? = some v := by
  unfold value
  cases d.toJson? <;> simp

lemma members_eq_ok_iff {ms : List (String × Json)} :
    members .json d = .ok ms ↔ d.toJson? = some (.object ms) := by
  cases d with
  | mapping members =>
    rw [Decoder.members, Document.toJson?]
    cases Document.membersToJson? members [] <;> simp
  | null | bool | number | text | sequence | flawed => simp [Decoder.members, Document.toJson?]

/-- A 64-bit word is written as the whole number that it is. -/
lemma word64_eq_ok_iff {n : UInt64} : word64 .json d = .ok n ↔ d = .number (.whole n.toNat) := by
  cases d with
  | number m =>
    cases m with
    | whole m =>
      have hn := n.toNat_lt
      rw [word64, map, natural]
      by_cases hrange : 0 ≤ m ∧ m < Nat.pow 2 64
      · have hword : UInt64.ofNat m.toNat = n ↔ m = n.toNat := by
          have hm : m.toNat < UInt64.size := by
            have : Nat.pow 2 64 = UInt64.size := rfl
            omega
          rw [← UInt64.toNat_inj, UInt64.toNat_ofNat_of_lt' hm]
          omega
        rw [if_pos hrange]
        simpa [Except.map] using hword
      · have hne : m ≠ n.toNat := by
          rintro rfl
          exact hrange ⟨by omega, by exact_mod_cast hn⟩
        rw [if_neg hrange]
        simpa [Except.map] using hne
    | double | single => simp [word64, map, natural, Except.map]
  | null | bool | text | sequence | mapping | flawed => simp [word64, map, natural, Except.map]

/-- The items of a list are decoded one by one, and all of them must fit. -/
lemma list_eq_ok_iff {fits : Document → α → Prop}
    (h : ∀ d a, decoder .json d = .ok a ↔ fits d a) {as : List α} :
    list decoder .json d = .ok as ↔ ∃ ds, d = .sequence ds ∧ List.Forall₂ fits ds as := by
  have hitems (ds : List Document) :
      ds.mapM (decoder .json) = .ok as ↔ List.Forall₂ fits ds as := by
    induction ds generalizing as with
    | nil => cases as <;> simp [pure, Except.pure]
    | cons d ds ih =>
      rw [List.mapM_cons, List.forall₂_cons_left_iff]
      simp only [← h, ← ih]
      cases decoder .json d <;> cases ds.mapM (decoder .json) <;>
        simp [bind, Except.bind, pure, Except.pure, eq_comm]
  cases d with
  | sequence items =>
    show items.mapM (decoder .json) = .ok as ↔ _
    simp [hitems]
  | null | bool | number | text | mapping | flawed => simp [list]

/-- A text decodes to what the document in it decodes to. -/
lemma decodeText_eq_ok_iff {s : String} {a : α} :
    decodeText decoder s = .ok a ↔ ∃ d, Document.read? s = some d ∧ decoder .json d = .ok a := by
  unfold decodeText
  cases Document.read? s with
  | none => simp
  | some d => cases hdecode : decoder .json d <;> simp [hdecode]

end Decoder

end BulkWrite
