import BulkWrite.Error
import BulkWrite.Item.Delete
import BulkWrite.Item.Reference
import BulkWrite.Proofs.Decode.Written
import BulkWrite.Proofs.Json.Lasting

/-!
# Items and errors that are read back

References, filtered deletes and errors are read back from their texts as they were, whatever
characters their texts hold. The condition of a delete is a free value, so it must last where it
stands: its numbers must, and it may not be nested as deeply as a document alone, because it stands
inside a record (`DeleteItem.readsBack_iff`). Values that are read back from the same text
are the same, so different ones have different texts. Main statement: `Decoder.items_read_back`.
-/

namespace BulkWrite

open Fields

/-! ## Texts that determine a value -/

namespace Decoder

variable {α : Type} {decoder : Decoder α} {toJson : α → Json} {a b : α}

/-- The text of a value is decoded as that value. -/
def ReadsBack (decoder : Decoder α) (toJson : α → Json) (a : α) : Prop :=
  decodeText decoder (toJson a).print = .ok a

/-- Values that are read back have different texts if they differ. -/
lemma ReadsBack.print_ne (ha : decoder.ReadsBack toJson a) (hb : decoder.ReadsBack toJson b)
    (hne : a ≠ b) : (toJson a).print ≠ (toJson b).print := by
  intro htext
  unfold ReadsBack at ha hb
  rw [htext, hb] at ha
  exact hne (Except.ok.inj ha).symm

end Decoder

/-! ## References -/

lemma Beacon.decoder_toJson (b : Beacon) : decoder .json b.toJson.toDocument = .ok b := by
  let members := [("class", some (Json.text b.className)), ("id", some (.text b.id))]
  have hnames : (members.map Prod.fst).Nodup := by simp [members]
  have hclass : (required "class" Decoder.text).Reads members b.className :=
    .required hnames (.head _) rfl
  have hid : (required "id" Decoder.text).Reads members b.id :=
    .required hnames (.tail _ (.head _)) rfl
  exact (hclass.map.seq hid).record "BeaconRef"

/-- A tenant is written if there is one. -/
lemma Fields.reads_tenant {members : List (String × Option Json)} {tenant : Option String}
    (hnames : (members.map Prod.fst).Nodup) (hmem : ("tenant", tenant.map .text) ∈ members) :
    (optional "tenant" Decoder.text).Reads members tenant := by
  refine .field hnames hmem (fun v hv => ?_) (fun hnone => ?_)
  · obtain ⟨name, hname, rfl⟩ := Option.map_eq_some_iff.mp hv
    exact optional_eq_ok_iff.mpr (.inr ⟨name, nofun, rfl, hname⟩)
  · rw [Option.map_eq_none_iff.mp hnone]

namespace ReferenceItem

lemma decoder_toJson (r : ReferenceItem) : decoder .json r.toJson.toDocument = .ok r := by
  let members := [("id", some (.text r.id)), ("from", some r.source.toJson),
    ("property", some (.text r.property)), ("to", some r.target.toJson),
    ("tenant", r.tenant.map .text)]
  have hnames : (members.map Prod.fst).Nodup := by simp [members]
  have hid : (required "id" Decoder.text).Reads members r.id := .required hnames (.head _) rfl
  have hsource : (required "from" Beacon.decoder).Reads members r.source :=
    .required hnames (.tail _ (.head _)) r.source.decoder_toJson
  have hproperty : (required "property" Decoder.text).Reads members r.property :=
    .required hnames (.tail _ (.tail _ (.head _))) rfl
  have htarget : (required "to" Beacon.decoder).Reads members r.target :=
    .required hnames (.tail _ (.tail _ (.tail _ (.head _)))) r.target.decoder_toJson
  have htenant : (optional "tenant" Decoder.text).Reads members r.tenant :=
    reads_tenant hnames (.tail _ (.tail _ (.tail _ (.tail _ (.head _)))))
  exact ((((hid.map.seq hsource).seq hproperty).seq htarget).seq htenant).record "ReferenceRecord"

lemma readsBack (r : ReferenceItem) : decoder.ReadsBack toJson r := by
  have hexact : r.toJson.isExact := by
    unfold toJson Json.present
    cases r.tenant <;> rfl
  have hdepth : r.toJson.depth = 2 := by
    unfold toJson Json.present
    cases r.tenant <;> rfl
  exact Decoder.decodeText_print hexact (Nat.le_trans (Nat.le_of_eq hdepth) (by decide))
    r.decoder_toJson

end ReferenceItem

/-! ## Deletes -/

/-- The numbers of an exact value last. -/
lemma Json.lasts_of_isExact {v : Json} (h : v.isExact) : ∀ n ∈ v.numbers, n.Lasts := by
  induction v using inductionOn with
  | null | bool | text => nofun
  | number n =>
    rw [numbers, List.forall_mem_singleton]
    exact reading_of_isExact h
  | array items ih =>
    rw [isExact, areExact_iff] at h
    rw [numbers, forall_mem_itemsNumbers_iff]
    exact fun v hmem => ih v hmem (h v hmem)
  | object members ih =>
    rw [isExact, membersAreExact_iff] at h
    rw [numbers, forall_mem_membersNumbers_iff]
    exact fun m hmem => ih m hmem (h m hmem)

lemma DeleteOutput.decoder_name (output : DeleteOutput) :
    vocabulary.decoder .json (Json.text output.name).toDocument = .ok output := by
  cases output <;> rfl

namespace DeleteItem

variable {item : DeleteItem}

/-- The condition that is read back where `d` arrays and objects enclose it. -/
def filterAt (item : DeleteItem) (d : Nat) : Option Json :=
  (item.filter.readAt d).toJson?

/-- All but the condition is read back as it was. -/
lemma decoder_makes (item : DeleteItem) {d : Nat} (hd : d < Document.nestingBound) :
    decoder.Makes (item.toJson.readAt d)
      ((item.filterAt (d + 1)).map fun filter => { item with filter }) := by
  have hnames : ([("id", some (Json.text item.id)), ("class", some (.text item.className)),
      ("filter", some item.filter), ("dry_run", some (.bool item.dryRun)),
      ("output", some (.text item.output.name)),
      ("tenant", item.tenant.map .text)].map Prod.fst).Nodup := by simp
  have hid : (required "id" Decoder.text).Make (item.toJson.readAt d) 0 (some item.id) :=
    .of_part (Json.part_readAt hd 0 hnames (.head _)) (Decoder.makes_of_eq rfl)
  have hclass : (required "class" Decoder.text).Make (item.toJson.readAt d) 1
      (some item.className) :=
    .of_part (Json.part_readAt hd 1 hnames (.tail _ (.head _))) (Decoder.makes_of_eq rfl)
  have hfilter : (required "filter" Decoder.value).Make (item.toJson.readAt d) 2
      (item.filterAt (d + 1)) :=
    .of_part (Json.part_readAt hd 2 hnames (.tail _ (.tail _ (.head _))))
      fun _ => Decoder.value_eq_ok_iff
  have hdryRun : (absentAs "dry_run" false Decoder.bool).Make (item.toJson.readAt d) 3
      (some item.dryRun) :=
    .of_part (Json.part_readAt hd 3 hnames (.tail _ (.tail _ (.tail _ (.head _)))))
      (Decoder.makes_of_eq rfl)
  have houtput : (absentAs "output" .minimal DeleteOutput.vocabulary.decoder).Make
      (item.toJson.readAt d) 4 (some item.output) :=
    .of_part (Json.part_readAt hd 4 hnames (.tail _ (.tail _ (.tail _ (.tail _ (.head _))))))
      (Decoder.makes_of_eq item.output.decoder_name)
  have htenant : (Fields.optional "tenant" Decoder.text).Make (item.toJson.readAt d) 5
      (some item.tenant) := by
    have hmake : (Fields.optional "tenant" Decoder.text).Make (item.toJson.readAt d) 5 _ :=
      .optional (Json.part_readAt hd 5 hnames
        (.tail _ (.tail _ (.tail _ (.tail _ (.tail _ (.head _)))))))
    have htenant : (Decoder.text.optional .json (((item.tenant.map Json.text).map
        fun v => v.readAt (d + 1)).getD .null)).toOption = some item.tenant := by
      cases item.tenant <;> rfl
    rw [htenant] at hmake
    exact hmake
  have hrecord := (((((hid.map (f := DeleteItem.mk)).seq hclass).seq hfilter).seq hdryRun).seq
    houtput).seq htenant
  have hmakes := hrecord.record (Json.isRecord_readAt hd 6 _) "DeleteFilter"
  cases hfilter : item.filterAt (d + 1) <;> rw [hfilter] at hmakes <;> exact hmakes

/-- A delete is read back just when its condition lasts one level down. -/
lemma readsBack_iff (h : item.filter.isCanonical) : decoder.ReadsBack toJson item ↔
    (∀ n ∈ item.filter.numbers, n.Lasts) ∧ item.filter.depth < Document.nestingBound := by
  -- the other fields come back in any case, so the condition decides
  have hself : (item.filterAt 1).map (fun filter => { item with filter }) = some item ↔
      item.filterAt 1 = some item.filter := by
    rw [Option.map_eq_some_iff]
    constructor
    · rintro ⟨filter, hfilter, hitem⟩
      rw [hfilter, ← hitem]
    · exact fun hfilter => ⟨item.filter, hfilter, rfl⟩
  have hlasts := Json.toJson?_readAt_iff (show 1 ≤ Document.nestingBound by decide) h
  rw [Decoder.ReadsBack, Decoder.decodeText_eq_ok_iff, Document.read?_print]
  simp only [Option.some.injEq, exists_eq_left', item.decoder_makes (show 0 < _ by decide) item]
  rw [hself, filterAt, hlasts]
  exact and_congr_right fun _ => by omega

/-- A delete that a document can hold. -/
structure IsLegible (item : DeleteItem) : Prop where
  /-- Its condition is a free value, which is always kept canonical. -/
  isCanonical : item.filter.isCanonical
  /-- It has no numbers but whole ones within a 64-bit word. -/
  isExact : item.filter.isExact
  /-- A level of the document is taken up by the delete itself. -/
  depth_lt : item.filter.depth < Document.nestingBound

lemma IsLegible.readsBack (h : item.IsLegible) : decoder.ReadsBack toJson item :=
  (readsBack_iff h.isCanonical).mpr ⟨Json.lasts_of_isExact h.isExact, h.depth_lt⟩

end DeleteItem

/-! ## Errors -/

namespace Error

lemma decoder_toJson (e : Error) : decoder .json e.toJson.toDocument = .ok e := by
  cases e <;> rfl

lemma depth_toJson (e : Error) : e.toJson.depth = 1 :=
  rfl

lemma readsBack (e : Error) : decoder.ReadsBack toJson e :=
  Decoder.decodeText_print rfl (Nat.le_trans (Nat.le_of_eq e.depth_toJson) (by decide))
    e.decoder_toJson

end Error

/-! ## Main statement -/

/-- References, errors and deletes are read back from their texts as they were, and a delete just
when its condition is nested less deeply than a document may be. So different ones never have the
same text. -/
theorem Decoder.items_read_back :
    (∀ r, ReferenceItem.decoder.ReadsBack ReferenceItem.toJson r) ∧
    (∀ item : DeleteItem, item.filter.isCanonical → item.filter.isExact →
      (DeleteItem.decoder.ReadsBack DeleteItem.toJson item ↔
        item.filter.depth < Document.nestingBound)) ∧
    (∀ e, Error.decoder.ReadsBack Error.toJson e) ∧
    (∀ r r' : ReferenceItem, r ≠ r' → r.toJson.print ≠ r'.toJson.print) ∧
    (∀ item item' : DeleteItem, item.IsLegible → item'.IsLegible → item ≠ item' →
      item.toJson.print ≠ item'.toJson.print) ∧
    ∀ e e' : Error, e ≠ e' → e.toJson.print ≠ e'.toJson.print := by
  refine ⟨ReferenceItem.readsBack, fun item hcanonical hexact => ?_, Error.readsBack, ?_, ?_, ?_⟩
  · rw [DeleteItem.readsBack_iff hcanonical]
    exact and_iff_right (Json.lasts_of_isExact hexact)
  · exact fun r r' => r.readsBack.print_ne r'.readsBack
  · exact fun item item' h h' => h.readsBack.print_ne h'.readsBack
  · exact fun e e' => e.readsBack.print_ne e'.readsBack

/-! A condition with an array of the widest numbers, behind names and texts that need escapes. -/

/-- A delete whose condition holds names out of the ordinary. -/
def DeleteItem.awkward : DeleteItem where
  id := "\u007f\x00 \"😀\""
  className := "Straße\\"
  filter := .object [("", .array [.whole (-0x8000000000000000), .whole 0xFFFFFFFFFFFFFFFF, .null]),
    ("\n\t", .object [("é", .bool true)])]
  output := .verbose
  tenant := some ""

theorem Decoder.items_read_back_awkward :
    DeleteItem.awkward.filter.isCanonical ∧ DeleteItem.awkward.filter.isExact ∧
    DeleteItem.decoder.ReadsBack DeleteItem.toJson DeleteItem.awkward ∧
    DeleteItem.awkward.toJson.print ≠ { DeleteItem.awkward with tenant := none }.toJson.print := by
  obtain ⟨-, hdelete, -, -, hne, -⟩ := items_read_back
  have hcanonical : DeleteItem.awkward.filter.isCanonical := by decide
  have hexact : DeleteItem.awkward.filter.isExact := by decide
  have hdepth : DeleteItem.awkward.filter.depth < Document.nestingBound := by decide
  refine ⟨hcanonical, hexact, (hdelete _ hcanonical hexact).mpr hdepth, ?_⟩
  refine hne _ _ ⟨hcanonical, hexact, hdepth⟩ ⟨hcanonical, hexact, hdepth⟩ fun hsame => ?_
  cases congrArg DeleteItem.tenant hsame

end BulkWrite
