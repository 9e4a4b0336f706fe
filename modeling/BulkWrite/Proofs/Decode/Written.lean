import BulkWrite.Duration
import BulkWrite.Proofs.Decode.Records
import BulkWrite.Proofs.Json.Reading

/-!
# Decoding what was written

A record is written as an object of those of its members that are there (`Json.present`), and its
fields are read from them (`Fields.Reads`): a field from the member of its name, or from its default
if that member was left out. How a record reads is then put together from how its fields do, in the
same steps in which the record was put together from its fields.
-/

namespace BulkWrite

/-! ## Written records -/

namespace Json

variable {members : List (String × Option Json)} {name : String} {value : Option Json}

lemma isRecord_present (count : Nat) (members : List (String × Option Json)) :
    (present members).toDocument.IsRecord count := by
  rw [present, toDocument, membersToDocument_eq_map, Document.IsRecord]
  intro m hmem
  obtain ⟨written, -, rfl⟩ := List.mem_map.mp hmem
  rfl

lemma filter_eq_singleton (hnames : (members.map Prod.fst).Nodup)
    (hmem : (name, value) ∈ members) : members.filter (·.1 = name) = [(name, value)] := by
  induction members with
  | nil => cases hmem
  | cons m members ih =>
    rw [List.map_cons, List.nodup_cons] at hnames
    rcases List.mem_cons.mp hmem with rfl | hmem
    · have hrest : members.filter (·.1 = name) = [] := by
        rw [List.filter_eq_nil_iff]
        intro m hm hname
        exact hnames.1 (List.mem_map.mpr ⟨m, hm, of_decide_eq_true hname⟩)
      rw [List.filter_cons_of_pos (by simp), hrest]
    · have hother : m.1 ≠ name := by
        intro hname
        exact hnames.1 (List.mem_map.mpr ⟨(name, value), hmem, hname.symm⟩)
      rw [List.filter_cons_of_neg (by simpa using hother), ih hnames.2 hmem]

/-- What was written for a field is what stands under its name, in whatever documents the members
are taken to. -/
lemma part_of_mem (f : Json → Document) (index : Nat) (hnames : (members.map Prod.fst).Nodup)
    (hmem : (name, value) ∈ members) :
    (Document.mapping ((members.filterMap fun (name, value) => value.map (name, ·)).map
      fun m => (some m.1, f m.2))).Part index name (value.map f) := by
  have hparts : ∀ ms : List (String × Option Json),
      (((ms.filterMap fun (name, value) => value.map (name, ·)).map fun m => (some m.1, f m.2)).filter
        (·.1 = some name)).map Prod.snd = (ms.filter (·.1 = name)).filterMap (·.2.map f) := by
    intro ms
    induction ms with
    | nil => rfl
    | cons m ms ih =>
      obtain ⟨other, w⟩ := m
      by_cases hname : other = name <;> cases w <;> simp_all
  rw [Document.Part, hparts, filter_eq_singleton hnames hmem]
  cases value <;> rfl

/-- A written record has for each field just what was written for it. -/
lemma part_present (index : Nat) (hnames : (members.map Prod.fst).Nodup)
    (hmem : (name, value) ∈ members) :
    (present members).toDocument.Part index name (value.map toDocument) := by
  rw [present, toDocument, membersToDocument_eq_map]
  exact part_of_mem toDocument index hnames hmem

/-- So does the record that is read from it, where it is not nested too deeply. -/
lemma part_readAt {d : Nat} (hd : d < Document.nestingBound) (index : Nat)
    (hnames : (members.map Prod.fst).Nodup) (hmem : (name, value) ∈ members) :
    ((present members).readAt d).Part index name (value.map fun v => v.readAt (d + 1)) := by
  rw [present, readAt, nested_of_lt hd, membersReadAt_eq_map]
  exact part_of_mem (fun v => v.readAt (d + 1)) index hnames hmem

lemma isRecord_readAt {d : Nat} (hd : d < Document.nestingBound) (count : Nat)
    (members : List (String × Option Json)) : ((present members).readAt d).IsRecord count := by
  rw [present, readAt, nested_of_lt hd, membersReadAt_eq_map, Document.IsRecord]
  intro m hmem
  obtain ⟨written, -, rfl⟩ := List.mem_map.mp hmem
  rfl

/-- Each member of a written record was written. -/
lemma exists_mem_of_mem_present {m : String × Json}
    (h : m ∈ members.filterMap fun (name, value) => value.map (name, ·)) :
    ∃ name v, (name, some v) ∈ members ∧ (name, v) = m := by
  obtain ⟨⟨name, value⟩, hmem, hm⟩ := List.mem_filterMap.mp h
  obtain ⟨v, rfl, rfl⟩ := Option.map_eq_some_iff.mp hm
  exact ⟨name, v, hmem, rfl⟩

/-- A written record is one level deeper than its members. -/
lemma depth_present_le_iff {n : Nat} :
    (present members).depth ≤ n + 1 ↔ ∀ name v, (name, some v) ∈ members → v.depth ≤ n := by
  rw [present, depth, Nat.add_le_add_iff_right, membersDepth_le_iff]
  constructor
  · intro h name v hmem
    exact h (name, v) (List.mem_filterMap.mpr ⟨(name, some v), hmem, rfl⟩)
  · intro h m hmem
    obtain ⟨name, v, hwritten, rfl⟩ := exists_mem_of_mem_present hmem
    exact h name v hwritten

lemma isExact_present (h : ∀ name v, (name, some v) ∈ members → v.isExact) :
    (present members).isExact := by
  rw [present, isExact, membersAreExact_iff]
  intro m hmem
  obtain ⟨name, v, hwritten, rfl⟩ := exists_mem_of_mem_present hmem
  exact h name v hwritten

end Json

/-! ## Reading the fields of a written record -/

namespace Fields

variable {α β : Type} {fields : Fields α} {first : Fields (α → β)} {f : α → β} {g : α → β}
  {members : List (String × Option Json)} {name : String} {value : Option Json} {a : α}

/-- From the written members the fields read a value. -/
def Reads (fields : Fields α) (members : List (String × Option Json)) (a : α) : Prop :=
  ∀ index wanted, fields.read .json index ((Json.present members).toDocument.slot wanted) = .ok a

lemma Reads.map (h : fields.Reads members a) : (f <$> fields).Reads members (f a) :=
  fun index wanted => read_map_iff.mpr ⟨a, h index wanted, rfl⟩

lemma Reads.seq (hfirst : first.Reads members g) (h : fields.Reads members a) :
    (first <*> fields).Reads members (g a) :=
  fun index wanted =>
    read_seq_iff.mpr ⟨g, a, hfirst index wanted, h (index + first.count) wanted, rfl⟩

/-- A field is read from its member, and from its default if that was left out. -/
lemma Reads.field {default : Option α} {decoder : Decoder α}
    (hnames : (members.map Prod.fst).Nodup) (hmem : (name, value) ∈ members)
    (hpresent : ∀ v, value = some v → decoder .json v.toDocument = .ok a)
    (habsent : value = none → default = some a) :
    (Fields.field name default decoder).Reads members a := by
  intro index wanted
  have hpart := Json.part_present index hnames hmem
  rw [read_field_iff]
  cases value with
  | none => exact .inl ⟨hpart, habsent rfl⟩
  | some v => exact .inr ⟨v.toDocument, hpart, hpresent v rfl⟩

lemma Reads.required {v : Json} {decoder : Decoder α} (hnames : (members.map Prod.fst).Nodup)
    (hmem : (name, some v) ∈ members) (h : decoder .json v.toDocument = .ok a) :
    (Fields.required name decoder).Reads members a :=
  .field hnames hmem (fun _ hv => Option.some.inj hv ▸ h) nofun

/-- A written record reads as its fields do. -/
lemma Reads.record (h : fields.Reads members a) (name : String) :
    Fields.record name fields .json (Json.present members).toDocument = .ok a :=
  record_eq_ok_iff.mpr ⟨Json.isRecord_present _ _, h 0 _⟩

end Fields

/-! ## Other written values -/

namespace Decoder

variable {α β : Type}

lemma natural_whole {bits n : Nat} {wanted : String} (h : n < Nat.pow 2 bits) :
    natural bits wanted .json (Json.whole n).toDocument = .ok n := by
  have hrange : 0 ≤ (n : Int) ∧ (n : Int) < Nat.pow 2 bits := by omega
  exact if_pos hrange

lemma word16_whole (n : UInt16) : word16 .json (Json.whole n.toNat).toDocument = .ok n := by
  rw [word16, map, natural_whole n.toNat_lt]
  exact congrArg Except.ok n.ofNat_toNat

lemma word32_whole (n : UInt32) : word32 .json (Json.whole n.toNat).toDocument = .ok n := by
  rw [word32, map, natural_whole n.toNat_lt]
  exact congrArg Except.ok n.ofNat_toNat

lemma word64_whole (n : UInt64) : word64 .json (Json.whole n.toNat).toDocument = .ok n :=
  word64_eq_ok_iff.mpr rfl

lemma size_whole (n : UInt64) : size .json (Json.whole n.toNat).toDocument = .ok n := by
  rw [size, map, natural_whole n.toNat_lt]
  exact congrArg Except.ok n.ofNat_toNat

lemma list_array {decoder : Decoder α} {f : β → Json} {g : β → α} {xs : List β}
    (h : ∀ x ∈ xs, decoder .json (f x).toDocument = .ok (g x)) :
    list decoder .json (Json.array (xs.map f)).toDocument = .ok (xs.map g) := by
  show (Json.itemsToDocument (xs.map f)).mapM (decoder .json) = _
  induction xs with
  | nil => rfl
  | cons x xs ih =>
    obtain ⟨hx, hxs⟩ := List.forall_mem_cons.mp h
    rw [List.map_cons, Json.itemsToDocument, List.mapM_cons, hx, ih hxs]
    rfl

lemma value_toDocument {v : Json} (h : v.isCanonical) : value .json v.toDocument = .ok v := by
  rw [value, Json.toJson?_toDocument h]

/-- The text of a value decodes as its document does. -/
lemma decodeText_print {decoder : Decoder α} {v : Json} {a : α} (hexact : v.isExact)
    (hdepth : v.depth ≤ Document.nestingBound) (h : decoder .json v.toDocument = .ok a) :
    decodeText decoder v.print = .ok a :=
  decodeText_eq_ok_iff.mpr ⟨v.toDocument, Document.read?_print_of_isExact hexact hdepth, h⟩

end Decoder

lemma Duration.decoder_whole {n : Nat} (h : n < UInt64.size) :
    decoder .json (Json.whole n).toDocument = .ok (.ofMillis n) := by
  rw [decoder, Decoder.map, Decoder.natural_whole h]
  rfl

end BulkWrite
