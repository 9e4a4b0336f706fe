import Mathlib.Data.List.Permutation
import BulkWrite.Config
import BulkWrite.Proofs.Decode.Items
import BulkWrite.Proofs.Decode.Reordering
import BulkWrite.Proofs.Decode.Results

/-!
# Kinds and types in any place

A fault names its kind and an error its type, and both may do so behind members whose meaning
depends on it. A fault then looks for its kind first; an error keeps its message until the type is
known. Yet either of them is made up of what its document has for its fields, like any other record
(`Fault.decoder_eq_ok_iff`, `Error.decoder_eq_ok_iff`). So nothing that is read from a document
depends on the order of members (`Decoder.members_in_any_order`).
-/

namespace BulkWrite

open Fields

variable {α : Type}

/-! ## Faults -/

namespace Fault

variable {d d' : Document} {kind : Kind} {fault : Fault} {index : Nat}

/-- A document has the members of a fault besides its kind; among items they stand from an index
on. -/
def HasMembers (d : Document) (index : Nat) : Fault → Prop
  | .status code body =>
    (∃ part, d.Part index "status" (some part) ∧ Decoder.word16 .json part = .ok code) ∧
      d.Part (index + 1) "body" (some (.text body))
  | fault => d.Part index "message" (some (.text fault.text))

lemma read_fields_iff {wanted : String} :
    (fields kind).read .json index (d.slot wanted) = .ok fault ↔
      fault.kind = kind ∧ fault.HasMembers d index := by
  have hcount : (Fields.required "status" Decoder.word16).count = 1 := rfl
  cases kind <;> simp only [fields, read_map_iff, read_seq_iff, read_required_iff, count_map,
    Decoder.text_eq_ok_iff, hcount] <;>
    cases fault <;> simp [HasMembers, Fault.kind, text]

lemma find?_kinds_iff {s : String} : kinds.find? s = some fault.kind ↔ s = fault.label := by
  constructor
  · intro h
    obtain ⟨_, _, hentries, -⟩ := List.lookup_eq_some_iff.mp h
    have hmem : (s, fault.kind) ∈ kinds.entries := by simp [hentries]
    cases fault <;> simpa [kinds, kind, label] using hmem
  · rintro rfl
    exact Vocabulary.known_eq_ok_iff.mp fault.known_label

/-- The kind of a fault is told by its label. -/
lemma kindOf_eq_ok_iff : kindOf d = .ok fault.kind ↔ d = .text fault.label := by
  cases d with
  | text s => rw [kindOf, Vocabulary.known_eq_ok_iff, find?_kinds_iff, Document.text.injEq]
  | null | bool | number | sequence | mapping | flawed => simp [kindOf]

/-- The members besides the kind may be looked for where the kind is left out. -/
lemma hasMembers_iff
    (h : ∀ index name part, name ≠ tag → (d.Part index name part ↔ d'.Part (index + 1) name part)) :
    fault.HasMembers d index ↔ fault.HasMembers d' (index + 1) := by
  have hmessage {part : Option Document} := h index "message" part (by decide)
  have hstatus {part : Option Document} := h index "status" part (by decide)
  have hbody {part : Option Document} := h (index + 1) "body" part (by decide)
  cases fault <;> simp only [HasMembers, hmessage, hstatus, hbody]

lemma kindAmong_eq_ok_iff {members : List (Option String × Document)} :
    kindAmong members = .ok fault.kind ↔
      (Document.mapping members).Part 0 tag (some (.text fault.label)) := by
  have hfilter : members.filter (·.1 == some tag) = members.filter (·.1 = some tag) :=
    List.filter_congr fun _ _ => beq_eq_decide _ _
  rw [kindAmong, Document.Part, hfilter]
  generalize members.filter (·.1 = some tag) = named
  rcases named with - | ⟨⟨name, d⟩, - | ⟨m, rest⟩⟩
  · simp
  · simp [kindOf_eq_ok_iff]
  · simp [bind, bind_eq_ok_iff, throw, throwThe, MonadExceptOf.throw]

lemma decodeSound_mapping_iff {members : List (Option String × Document)}
    (hnames : ∀ m ∈ members, m.1.isSome) : decodeSound .json (.mapping members) = .ok fault ↔
      (Document.mapping members).Part 0 tag (some (.text fault.label)) ∧
        fault.HasMembers (.mapping members) 1 := by
  -- the fields are read where the kind is left out, and no other part changes by that
  let others := members.filter (·.1 != some tag)
  have hothers (index : Nat) (name : String) (part : Option Document) (hname : name ≠ tag) :
      (Document.mapping others).Part index name part ↔
        (Document.mapping members).Part (index + 1) name part := by
    have hfilter (m : Option String × Document) :
        (decide (m.1 = some name) && m.1 != some tag) = decide (m.1 = some name) := by
      by_cases h : m.1 = some name <;> simp [h, hname]
    simp only [Document.Part, others, List.filter_filter, hfilter]
  have hfields (kind : Kind) : (fields kind).fromMembers .json others = .ok fault ↔
      fault.kind = kind ∧ fault.HasMembers (.mapping members) 1 := by
    have hrecord : (Document.mapping others).IsRecord (fields kind).count := fun m hm =>
      hnames m (List.mem_of_mem_filter hm)
    show Fields.record "" (fields kind) .json (.mapping others) = .ok fault ↔ _
    rw [record_eq_ok_iff, and_iff_right hrecord, read_fields_iff, hasMembers_iff hothers]
  show kindAmong members >>= (fun kind => (fields kind).fromMembers .json others) = _ ↔ _
  simp only [bind, bind_eq_ok_iff, hfields]
  constructor
  · rintro ⟨kind, hkind, rfl, hmembers⟩
    exact ⟨kindAmong_eq_ok_iff.mp hkind, hmembers⟩
  · rintro ⟨hlabel, hmembers⟩
    exact ⟨fault.kind, kindAmong_eq_ok_iff.mpr hlabel, rfl, hmembers⟩

lemma decodeSound_sequence_iff {items : List Document} :
    decodeSound .json (.sequence (d :: items)) = .ok fault ↔
      items.length ≤ (fields fault.kind).count ∧ d = .text fault.label ∧
        fault.HasMembers (.sequence (d :: items)) 1 := by
  have hfields (kind : Kind) (wanted : String) :
      (fields kind).fromItems .json wanted items = .ok fault ↔
        fault.kind = kind ∧ fault.HasMembers (.sequence (d :: items)) 1 := by
    have hitems (index : Nat) (name : String) (part : Option Document) (_ : name ≠ tag) :
        (Document.sequence items).Part index name part ↔
          (Document.sequence (d :: items)).Part (index + 1) name part := by
      simp [Document.Part]
    rw [fromItems, mapError_eq_ok_iff, ← hasMembers_iff hitems]
    exact read_fields_iff (d := .sequence items)
  rw [decodeSound]
  simp only [bind, bind_eq_ok_iff]
  constructor
  · rintro ⟨kind, hkind, read, hread, hend⟩
    split at hend
    · cases hend
    · rename_i hlength
      cases hend
      obtain ⟨rfl, hmembers⟩ := (hfields kind _).mp hread
      exact ⟨Nat.not_lt.mp hlength, kindOf_eq_ok_iff.mp hkind, hmembers⟩
  · rintro ⟨hlength, hfirst, hmembers⟩
    refine ⟨_, kindOf_eq_ok_iff.mpr hfirst, fault, (hfields _ _).mpr ⟨rfl, hmembers⟩, ?_⟩
    rw [if_neg (Nat.not_lt.mpr hlength)]
    rfl

/-- A document without flaws holds a fault just when it has the label of its kind and its other
members, in whatever order. -/
lemma decoder_eq_ok_iff : decoder .json d = .ok fault ↔ d.isSound ∧
    d.IsRecord ((fields fault.kind).count + 1) ∧ d.Part 0 tag (some (.text fault.label)) ∧
      fault.HasMembers d 1 := by
  rw [decoder]
  by_cases hsound : d.isSound
  case neg => simp [hsound]
  rw [if_pos hsound, and_iff_right hsound]
  cases d with
  | mapping members =>
    have hnames : ∀ m ∈ members, m.1.isSome := fun m hm =>
      (Document.membersAreSound_iff.mp hsound m hm).1
    rw [decodeSound_mapping_iff hnames]
    exact (and_iff_right hnames).symm
  | sequence items =>
    cases items with
    | nil => simp [decodeSound, Document.Part]
    | cons d items => simp [decodeSound_sequence_iff, Document.Part, Document.IsRecord]
  | null | bool | number | text | flawed => simp [decodeSound, Document.IsRecord]

lemma HasMembers.imp (h : fault.HasMembers d index) (hparts : d.KeepsParts d') :
    fault.HasMembers d' index := by
  cases fault with
  | status code body =>
    obtain ⟨⟨part, hpart, hcode⟩, hbody⟩ := h
    obtain ⟨part', hpart', hreordered⟩ := hparts hpart
    exact ⟨⟨part', hpart', Decoder.isOrderFree_word16 hreordered hcode⟩, hparts.text hbody⟩
  | connect | timeout | decode | protocol => exact hparts.text h

lemma decoder_congr (hdecode : decoder .json d = .ok fault) (hparts : d.KeepsParts d')
    (hsound : d'.isSound) (hrecord : d'.IsRecord ((fields fault.kind).count + 1)) :
    decoder .json d' = .ok fault := by
  obtain ⟨-, -, hlabel, hmembers⟩ := decoder_eq_ok_iff.mp hdecode
  exact decoder_eq_ok_iff.mpr ⟨hsound, hrecord, hparts.text hlabel, hmembers.imp hparts⟩

/-- The kind may stand before, between and behind the other members. -/
lemma isOrderFree_decoder : decoder.IsOrderFree := by
  intro d d' hd fault hdecode
  obtain ⟨hsound, hrecord, -⟩ := decoder_eq_ok_iff.mp hdecode
  exact decoder_congr hdecode (.of_reordered hd) (hd.isSound_eq ▸ hsound)
    (hd.isRecord_iff.mp hrecord)

end Fault

/-! ## Errors -/

namespace Error

variable {d d' : Document} {e : Error} {make : String → Error}
variable {members rest : List (Option String × Document)}

/-- Whether a member is one of the two of an error. -/
def IsOwn (m : Option String × Document) : Prop := m.1 = some typeField ∨ m.1 = some messageField

/-- The members of an error among all members. -/
def ownMembers (members : List (Option String × Document)) : List (Option String × Document) :=
  members.filter fun (name, _) => name = some typeField ∨ name = some messageField

lemma noMore_eq_ok_iff {u : Unit} : noMore rest = .ok u ↔ rest = [] := by
  cases rest <;> simp [noMore]

lemma withType_eq_ok_iff (hown : ∀ m ∈ rest, IsOwn m) : withType .json make rest = .ok e ↔
    ∃ s, rest = [(some messageField, .text s)] ∧ make s = e := by
  rcases rest with - | ⟨⟨name, d⟩, rest⟩
  · simp [withType]
  obtain rfl | rfl : name = some typeField ∨ name = some messageField := hown _ (.head _)
  · simp [withType, typeField, messageField]
  · rw [withType, if_neg (by decide)]
    simp only [bind, Fields.bind_eq_ok_iff, Decoder.text_eq_ok_iff, noMore_eq_ok_iff, pure,
      Except.pure]
    simp [and_assoc]

lemma withMessage_eq_ok_iff (hown : ∀ m ∈ rest, IsOwn m) : withMessage .json d rest = .ok e ↔
    ∃ make s, d = .text s ∧ make s = e ∧
      ∃ part, rest = [(some typeField, part)] ∧ vocabulary.decoder .json part = .ok make := by
  rcases rest with - | ⟨⟨name, part⟩, rest⟩
  · simp [withMessage]
  obtain rfl | rfl : name = some typeField ∨ name = some messageField := hown _ (.head _)
  · rw [withMessage, if_neg (by decide)]
    simp only [bind, Fields.bind_eq_ok_iff, Decoder.text_eq_ok_iff, noMore_eq_ok_iff, pure,
      Except.pure]
    constructor
    · rintro ⟨make, hmake, s, rfl, -, rfl, ⟨⟩⟩
      exact ⟨make, s, rfl, rfl, part, rfl, hmake⟩
    · rintro ⟨make, s, rfl, rfl, part, ⟨⟩, hmake⟩
      exact ⟨make, hmake, s, rfl, (), rfl, rfl⟩
  · simp [withMessage, typeField, messageField]

/-- The type may stand before the message or behind it. -/
lemma fromMembers_eq_ok_iff : fromMembers .json members = .ok e ↔
    ∃ make s part, make s = e ∧ vocabulary.decoder .json part = .ok make ∧
      (ownMembers members).Perm [(some typeField, part), (some messageField, .text s)] := by
  have hown : ∀ m ∈ ownMembers members, IsOwn m := by simp [ownMembers, IsOwn]
  rw [fromMembers]
  unfold ownMembers at hown ⊢
  generalize members.filter _ = found at hown ⊢
  rcases found with - | ⟨⟨name, d⟩, rest⟩
  · simp
  obtain ⟨hname, hrest⟩ := List.forall_mem_cons.mp hown
  obtain rfl | rfl : name = some typeField ∨ name = some messageField := hname
  · -- the type comes first, and the message is read as that of a known type
    show (if some typeField = some typeField then _ else _) = _ ↔ _
    rw [if_pos rfl]
    simp only [bind, Fields.bind_eq_ok_iff, withType_eq_ok_iff hrest, List.perm_pair]
    constructor
    · rintro ⟨make, hmake, s, rfl, he⟩
      exact ⟨make, s, d, he, hmake, .inl rfl⟩
    · rintro ⟨make, s, part, he, hmake, hpair | hpair⟩
      · cases hpair
        exact ⟨make, hmake, s, rfl, he⟩
      · simp [typeField, messageField] at hpair
  · -- the message comes first, and is kept until the type is known
    show (if some messageField = some typeField then _ else _) = _ ↔ _
    rw [if_neg (by decide)]
    simp only [List.perm_pair]
    constructor
    · intro hdecode
      split at hdecode
      · obtain ⟨make, s, rfl, he, part, rfl, hmake⟩ := (withMessage_eq_ok_iff hrest).mp hdecode
        exact ⟨make, s, part, he, hmake, .inr rfl⟩
      · cases hdecode
    · rintro ⟨make, s, part, he, hmake, hpair | hpair⟩
      · simp [typeField, messageField] at hpair
      · cases hpair
        -- it is a text, so it has no flaw for which it would not be kept
        exact (withMessage_eq_ok_iff hrest).mpr ⟨make, s, rfl, he, part, rfl, hmake⟩

lemma ownMembers_perm_iff {part message : Document} :
    (ownMembers members).Perm [(some typeField, part), (some messageField, message)] ↔
      (Document.mapping members).Part 0 typeField (some part) ∧
        (Document.mapping members).Part 1 messageField (some message) := by
  have htype : (ownMembers members).filter (·.1 = some typeField) =
      members.filter (·.1 = some typeField) := by
    rw [ownMembers, List.filter_filter]
    exact List.filter_congr fun m _ => by grind
  have hmessage : (ownMembers members).filter (fun m => !decide (m.1 = some typeField)) =
      members.filter (·.1 = some messageField) := by
    rw [ownMembers, List.filter_filter]
    exact List.filter_congr fun m _ => by grind [typeField, messageField]
  rw [Document.part_some_iff, Document.part_some_iff, ← htype, ← hmessage]
  constructor
  · intro h
    exact ⟨(h.filter _).eq_singleton, (h.filter _).eq_singleton⟩
  · rintro ⟨htype, hmessage⟩
    have hparts :=
      List.filter_append_perm (fun m => decide (m.1 = some typeField)) (ownMembers members)
    rw [htype, hmessage] at hparts
    exact hparts.symm

/-- A document holds an error just when it has the type and the message of the error. -/
lemma decoder_eq_ok_iff : decoder .json d = .ok e ↔ d.IsRecord 2 ∧
    ∃ part make s, d.Part 0 typeField (some part) ∧ vocabulary.decoder .json part = .ok make ∧
      d.Part 1 messageField (some (.text s)) ∧ make s = e := by
  cases d with
  | mapping members =>
    rw [decoder, Document.IsRecord, ← List.all_eq_true]
    by_cases hnames : members.all (·.1.isSome)
    · rw [if_pos hnames, and_iff_right hnames, fromMembers_eq_ok_iff]
      simp only [ownMembers_perm_iff]
      constructor
      · rintro ⟨make, s, part, he, hmake, htype, hmessage⟩
        exact ⟨part, make, s, htype, hmake, hmessage, he⟩
      · rintro ⟨part, make, s, htype, hmake, hmessage, he⟩
        exact ⟨make, s, part, he, hmake, htype, hmessage⟩
    · simp [hnames]
  | sequence items =>
    rcases items with - | ⟨d, - | ⟨message, - | ⟨item, rest⟩⟩⟩
    · simp [decoder, Document.Part]
    · simp [decoder, Document.Part, bind, Fields.bind_eq_ok_iff, throw, throwThe,
        MonadExceptOf.throw]
    · simp [decoder, Document.Part, Document.IsRecord, bind, Fields.bind_eq_ok_iff,
        Decoder.text_eq_ok_iff, pure, Except.pure]
    · simp [decoder, Document.IsRecord, bind, Fields.bind_eq_ok_iff, throw, throwThe,
        MonadExceptOf.throw]
  | null | bool | number | text | flawed => simp [decoder, Document.IsRecord]

lemma decoder_congr (hdecode : decoder .json d = .ok e) (hparts : d.KeepsParts d')
    (hrecord : d'.IsRecord 2) : decoder .json d' = .ok e := by
  obtain ⟨-, part, make, s, htype, hmake, hmessage, he⟩ := decoder_eq_ok_iff.mp hdecode
  obtain ⟨part', htype', hreordered⟩ := hparts htype
  have hmake' := vocabulary.isOrderFree_decoder hreordered hmake
  exact decoder_eq_ok_iff.mpr ⟨hrecord, part', make, s, htype', hmake', hparts.text hmessage, he⟩

lemma isOrderFree_decoder : decoder.IsOrderFree := by
  intro d d' hd e hdecode
  have hrecord := (decoder_eq_ok_iff.mp hdecode).1
  exact decoder_congr hdecode (.of_reordered hd) (hd.isRecord_iff.mp hrecord)

end Error

/-! ## Other types -/

lemma ItemError.isOrderFree_decoder : decoder.IsOrderFree :=
  ((Decoder.isOrderFree_text.required "message").map _).record _

lemma ItemResult.isOrderFree_decoder : decoder.IsOrderFree := by
  have hid := Decoder.isOrderFree_text.required "id"
  have hstatus := ItemStatus.vocabulary.isOrderFree_decoder.required "status"
  have herrors := ItemError.isOrderFree_decoder.list.absentAs "errors" []
  have hdetail := Decoder.isOrderFree_value.absentOrNull "detail"
  exact ((((hid.map _).seq hstatus).seq herrors).seq hdetail).record _

lemma AttemptStats.isOrderFree_decoder : decoder.IsOrderFree := by
  have hattempts := Decoder.isOrderFree_word32.required "attempts"
  have hconnection := Decoder.isOrderFree_word32.required "connection_retries"
  have htimeout := Decoder.isOrderFree_word32.required "timeout_retries"
  have hwaited := Duration.isOrderFree_decoder.required "waited_ms"
  exact ((((hattempts.map _).seq hconnection).seq htimeout).seq hwaited).record _

lemma BatchResult.isOrderFree_decoder : decoder.IsOrderFree := by
  have hbatch := (Decoder.isOrderFree_natural 64 "u64").required "batch"
  have hitems := ItemResult.isOrderFree_decoder.list.required "items"
  have herror := Fault.isOrderFree_decoder.absentOrNull "error"
  have hstats := AttemptStats.isOrderFree_decoder.absentAs "stats" {}
  exact ((((hbatch.map _).seq hitems).seq herror).seq hstats).record _

lemma Beacon.isOrderFree_decoder : decoder.IsOrderFree := by
  have hclass := Decoder.isOrderFree_text.required "class"
  have hid := Decoder.isOrderFree_text.required "id"
  exact ((hclass.map _).seq hid).record _

lemma ReferenceItem.isOrderFree_decoder : decoder.IsOrderFree := by
  have hid := Decoder.isOrderFree_text.required "id"
  have hfrom := Beacon.isOrderFree_decoder.required "from"
  have hproperty := Decoder.isOrderFree_text.required "property"
  have hto := Beacon.isOrderFree_decoder.required "to"
  have htenant := Decoder.isOrderFree_text.absentOrNull "tenant"
  exact (((((hid.map _).seq hfrom).seq hproperty).seq hto).seq htenant).record _

lemma DeleteItem.isOrderFree_decoder : decoder.IsOrderFree := by
  have hid := Decoder.isOrderFree_text.required "id"
  have hclass := Decoder.isOrderFree_text.required "class"
  have hfilter := Decoder.isOrderFree_value.required "filter"
  have hdryRun := Decoder.isOrderFree_bool.absentAs "dry_run" false
  have houtput := DeleteOutput.vocabulary.isOrderFree_decoder.absentAs "output" .minimal
  have htenant := Decoder.isOrderFree_text.absentOrNull "tenant"
  exact ((((((hid.map _).seq hclass).seq hfilter).seq hdryRun).seq houtput).seq htenant).record _

lemma EndpointConfig.isOrderFree_decoder : decoder.IsOrderFree := by
  have hurl := Decoder.isOrderFree_text.required "base_url"
  have hkey := Decoder.isOrderFree_text.absentOrNull "api_key"
  have htimeout := Decoder.isOrderFree_word64.absentAs "timeout_ms" defaultTimeoutMs
  have hlevel := Consistency.vocabulary.isOrderFree_decoder.absentOrNull "consistency_level"
  exact ((((hurl.map _).seq hkey).seq htimeout).seq hlevel).record _

lemma BatchingConfig.isOrderFree_decoder : decoder.IsOrderFree := by
  have hbatch := Decoder.isOrderFree_size.required "batch_size"
  have hpool := Decoder.isOrderFree_size.required "pool_size"
  exact ((hbatch.map _).seq hpool).record _

lemma RetryPolicy.isOrderFree_decoder : decoder.IsOrderFree := by
  have hbase := Duration.isOrderFree_decoder.required "base_interval_ms"
  have hconnection := Decoder.isOrderFree_word32.required "max_connection_retries"
  have htimeout := Decoder.isOrderFree_word32.required "max_timeout_retries"
  exact (((hbase.map _).seq hconnection).seq htimeout).record _

lemma Config.isOrderFree_decoder : decoder.IsOrderFree := by
  have hendpoint := EndpointConfig.isOrderFree_decoder.required "endpoint"
  have hbatching := BatchingConfig.isOrderFree_decoder.absentAs "batching" {}
  have hretry := RetryPolicy.isOrderFree_decoder.required "retry"
  exact (((hendpoint.map _).seq hbatching).seq hretry).record _

/-! ## Main statement -/

/-- Two texts that differ only in where the members of their objects stand are decoded to the same
value, or neither of them is decoded. -/
def Decoder.IgnoresOrder (decoder : Decoder α) : Prop :=
  ∀ ⦃s s' : String⦄ ⦃d d' : Document⦄, Document.read? s = some d → Document.read? s' = some d' →
    d.Reordered d' → (decodeText decoder s).toOption = (decodeText decoder s').toOption

lemma Decoder.toOption_decodeText {decoder : Decoder α} {s : String} {d : Document}
    (hread : Document.read? s = some d) :
    (decodeText decoder s).toOption = (decoder .json d).toOption := by
  rw [decodeText, hread]
  cases hdecode : decoder .json d <;> simp [hdecode, Except.toOption]

lemma Decoder.IsOrderFree.ignoresOrder {decoder : Decoder α} (h : decoder.IsOrderFree) :
    decoder.IgnoresOrder := by
  intro s s' d d' hread hread' hd
  rw [toOption_decodeText hread, toOption_decodeText hread', h.toOption_eq hd]

/-- The members are those of an object, in any order and among others of other names. -/
def Json.StandsAmong (v : Json) (others members : List (Option String × Document)) : Prop :=
  ∃ own, v.toDocument = .mapping own ∧ (∀ m ∈ others, ∀ n ∈ own, m.1 ≠ n.1) ∧
    members.Perm (own ++ others)

namespace Json.StandsAmong

variable {v : Json} {others members : List (Option String × Document)}

lemma keepsParts (h : v.StandsAmong others members) :
    v.toDocument.KeepsParts (.mapping members) := by
  obtain ⟨own, hown, hothers, hperm⟩ := h
  exact hown ▸ .of_perm hothers hperm

/-- The members of a value's own have no flaws, so it comes down to the others. -/
lemma forall_mem {p : Option String × Document → Prop} (h : v.StandsAmong others members)
    (hown : ∀ m, m.1.isSome ∧ m.2.isSound → p m) (hothers : ∀ m ∈ others, p m) :
    ∀ m ∈ members, p m := by
  obtain ⟨own, hv, -, hperm⟩ := h
  have hsound : (Document.mapping own).isSound := hv ▸ isSound_toDocument v
  intro m hm
  rcases List.mem_append.mp (hperm.mem_iff.mp hm) with hm | hm
  · exact hown m (Document.membersAreSound_iff.mp hsound m hm)
  · exact hothers m hm

end Json.StandsAmong

/-- The order of members makes no difference to what a text is decoded to, whether they are known or
not and wherever in the document their object stands. So a fault is known whatever stands before its
kind, and an error whatever stands before its type. -/
theorem Decoder.members_in_any_order :
    Fault.decoder.IgnoresOrder ∧ Error.decoder.IgnoresOrder ∧ ItemResult.decoder.IgnoresOrder ∧
      BatchResult.decoder.IgnoresOrder ∧ ReferenceItem.decoder.IgnoresOrder ∧
      DeleteItem.decoder.IgnoresOrder ∧ Config.decoder.IgnoresOrder ∧
      (∀ (fault : Fault) (others members : List (Option String × Document)) (s : String),
        fault.toJson.StandsAmong others members → (Document.mapping others).isSound →
        Document.read? s = some (.mapping members) → decodeText Fault.decoder s = .ok fault) ∧
      ∀ (e : Error) (others members : List (Option String × Document)) (s : String),
        e.toJson.StandsAmong others members → (∀ m ∈ others, m.1.isSome) →
        Document.read? s = some (.mapping members) → decodeText Error.decoder s = .ok e := by
  refine ⟨Fault.isOrderFree_decoder.ignoresOrder, Error.isOrderFree_decoder.ignoresOrder,
    ItemResult.isOrderFree_decoder.ignoresOrder, BatchResult.isOrderFree_decoder.ignoresOrder,
    ReferenceItem.isOrderFree_decoder.ignoresOrder, DeleteItem.isOrderFree_decoder.ignoresOrder,
    Config.isOrderFree_decoder.ignoresOrder, ?_, ?_⟩
  · intro fault others members s hmembers hothers hread
    have hsound : ∀ m ∈ members, m.1.isSome ∧ m.2.isSound :=
      hmembers.forall_mem (fun _ h => h) (Document.membersAreSound_iff.mp hothers)
    exact decodeText_eq_ok_iff.mpr ⟨_, hread,
      Fault.decoder_congr fault.decoder_toJson hmembers.keepsParts
        (Document.membersAreSound_iff.mpr hsound) fun m hm => (hsound m hm).1⟩
  · intro e others members s hmembers hothers hread
    exact decodeText_eq_ok_iff.mpr ⟨_, hread,
      Error.decoder_congr e.decoder_toJson hmembers.keepsParts
        (hmembers.forall_mem (fun _ h => h.1) hothers)⟩

/-! A result of which each object is written backwards, so that the kind of its fault comes last,
and an error whose type stands behind a member that no error has. -/

namespace Json

/-- A result with a fault and with a member that no result has. -/
def forwards : Json :=
  .object [("batch", .whole 7), ("items", .array []), ("trace", .null),
    ("error", .object [("kind", .text "status"), ("status", .whole 503), ("body", .text "busy")])]

/-- The same result backwards. -/
def backwards : Json :=
  .object [("error", .object [("body", .text "busy"), ("status", .whole 503),
    ("kind", .text "status")]), ("trace", .null), ("items", .array []), ("batch", .whole 7)]

lemma reordered_backwards : forwards.toDocument.Reordered backwards.toDocument :=
  .trans (.member [_, _, _] [] _ (.permuted (by decide) (List.reverse_perm _).symm))
    (.permuted (by decide) (List.reverse_perm _).symm)

/-- An error whose type comes last. -/
def belated : Json :=
  .object [("message", .text "no"), ("time", .array [.null]), ("type", .text "Network")]

end Json

theorem Decoder.members_in_any_order_backwards :
    (decodeText BatchResult.decoder Json.forwards.print).toOption =
        (decodeText BatchResult.decoder Json.backwards.print).toOption ∧
      (decodeText BatchResult.decoder Json.backwards.print).toOption =
        some { sequence := 7, error := some (.status 503 "busy") } ∧
      decodeText Error.decoder Json.belated.print = .ok (.network "no") := by
  obtain ⟨-, -, -, hresult, -, -, -, -, herror⟩ := members_in_any_order
  have hforwards : Document.read? Json.forwards.print = some Json.forwards.toDocument :=
    Document.read?_print_of_isExact (by decide) (by decide)
  have hbackwards : Document.read? Json.backwards.print = some Json.backwards.toDocument :=
    Document.read?_print_of_isExact (by decide) (by decide)
  have hbelated : Document.read? Json.belated.print = some Json.belated.toDocument :=
    Document.read?_print_of_isExact (by decide) (by decide)
  have hsame := hresult hforwards hbackwards Json.reordered_backwards
  have hdecode : decodeText BatchResult.decoder Json.forwards.print =
      .ok { sequence := 7, error := some (.status 503 "busy") } :=
    decodeText_eq_ok_iff.mpr ⟨_, hforwards, rfl⟩
  have hamong : (Error.network "no").toJson.StandsAmong [(some "time", .sequence [.null])]
      [(some "message", .text "no"), (some "time", .sequence [.null]),
        (some "type", .text "Network")] :=
    ⟨_, rfl, by decide, @List.perm_append_comm _ [_, _] [_]⟩
  refine ⟨hsame, ?_, herror _ _ _ _ hamong (by decide) hbelated⟩
  rw [← hsame, hdecode]
  rfl

end BulkWrite
