import BulkWrite.Proofs.Decode.Written
import BulkWrite.Result

/-!
# Results that are read back

A result is kept as a text and read back later. Every part of it reads back as it was, but for two:
a document holds whole milliseconds, so what was waited loses its fraction of one, and null stands
for nothing, so an outcome whose detail is null has no detail afterwards (`BatchResult.readBack`).
What was read back once reads back as it is (`BatchResult.reads_back`).

Fields that are left out of a document must each be matched by a default, and the kind of a fault by
the fields of that kind. So there is one lemma for each part of a result, about the document of that
part, and the lemma about the whole is put together from these.
-/

namespace BulkWrite

open Fields

/-! ## Faults -/

namespace Fault

/-- The members of a fault besides its kind. -/
def members : Fault → List (String × Option Json)
  | .status code body => [("status", some (.whole code.toNat)), ("body", some (.text body))]
  | fault => [("message", some (.text fault.text))]

/-- The kind of a fault. -/
def kind : Fault → Kind
  | .connect _ => .connect
  | .timeout _ => .timeout
  | .status _ _ => .status
  | .decode _ => .decode
  | .protocol _ => .protocol

/-- The fields of its kind make the fault of its members. -/
lemma reads_fields (fault : Fault) : (fields fault.kind).Reads fault.members fault := by
  have hmessage (m : String) :
      (required "message" Decoder.text).Reads [("message", some (.text m))] m :=
    .required (by simp) List.mem_cons_self rfl
  cases fault with
  | status code body =>
    have hstatus : (required "status" Decoder.word16).Reads (status code body).members code :=
      .required (by simp [members]) (.head _) (Decoder.word16_whole code)
    have hbody : (required "body" Decoder.text).Reads (status code body).members body :=
      .required (by simp [members]) (.tail _ (.head _)) rfl
    exact hstatus.map.seq hbody
  | connect m | timeout m | decode m | protocol m => exact (hmessage m).map

lemma toJson_eq_present (fault : Fault) :
    fault.toJson = .present ((tag, some (.text fault.label)) :: fault.members) := by
  cases fault <;> rfl

lemma known_label (fault : Fault) : kinds.known fault.label = .ok fault.kind := by
  cases fault <;> rfl

lemma ne_tag_of_mem_members (fault : Fault) : ∀ m ∈ fault.members, m.1 ≠ tag := by
  cases fault <;> simp [members, tag]

/-- A fault reads back as it was, whatever its kind. -/
lemma decoder_toJson (fault : Fault) : decoder .json fault.toJson.toDocument = .ok fault := by
  let rest := Json.membersToDocument
    (fault.members.filterMap fun m => m.2.map (m.1, ·))
  have hfields : (fields fault.kind).fromMembers .json rest = .ok fault :=
    fault.reads_fields.record ""
  have hdocument : fault.toJson.toDocument = .mapping ((some tag, .text fault.label) :: rest) := by
    rw [toJson_eq_present]
    rfl
  have hother : ∀ m ∈ rest, m.1 ≠ some tag := by
    intro m hmem
    rw [show rest = _ from Json.membersToDocument_eq_map _] at hmem
    obtain ⟨present, hpresent, rfl⟩ := List.mem_map.mp hmem
    obtain ⟨name, v, hwritten, rfl⟩ := Json.exists_mem_of_mem_present hpresent
    simpa using fault.ne_tag_of_mem_members _ hwritten
  -- the kind is looked for among all members, and the fields among the others
  have hkind : kindAmong ((some tag, .text fault.label) :: rest) = .ok fault.kind := by
    have hfilter : rest.filter (·.1 == some tag) = [] := by
      simpa [List.filter_eq_nil_iff] using hother
    rw [kindAmong, List.filter_cons_of_pos (by simp), hfilter]
    exact fault.known_label
  have hfilter :
      ((some tag, Document.text fault.label) :: rest).filter (·.1 != some tag) = rest := by
    rw [List.filter_cons_of_neg (by simp), List.filter_eq_self]
    simpa using hother
  rw [decoder, if_pos (Json.isSound_toDocument _), hdocument]
  simp only [decodeSound, hkind, hfilter]
  exact hfields

/-- A fault is a flat document. -/
lemma depth_toJson (fault : Fault) : fault.toJson.depth = 1 := by
  cases fault <;> rfl

lemma isExact_toJson (fault : Fault) : fault.toJson.isExact := by
  cases fault with
  | status code body =>
    have hcode : code.toNat < UInt64.size := Nat.lt_trans code.toNat_lt (by decide)
    simp [toJson, Json.isExact, Json.membersAreExact, Json.isExact_whole hcode]
  | connect m | timeout m | decode m | protocol m => rfl

end Fault

/-! ## Outcomes of items -/

lemma ItemStatus.decoder_name (status : ItemStatus) :
    vocabulary.decoder .json (Json.text status.name).toDocument = .ok status := by
  cases status <;> rfl

lemma ItemError.decoder_toJson (e : ItemError) : decoder .json e.toJson.toDocument = .ok e := by
  have hmessage : (required "message" Decoder.text).Reads
      [("message", some (.text e.message))] e.message := .required (by simp) (.head _) rfl
  exact hmessage.map.record "ItemError"

namespace ItemResult

/-- An outcome as it is read back: without a detail if that is null. -/
def readBack (r : ItemResult) : ItemResult :=
  { r with
    detail :=
      match r.detail with
      | some .null => none
      | detail => detail }

/-- Only null is lost. -/
lemma detail_readBack {r : ItemResult} {v : Json} (h : r.readBack.detail = some v) :
    r.detail = some v := by
  unfold readBack at h
  split at h
  · cases h
  · exact h

lemma readBack_readBack (r : ItemResult) : r.readBack.readBack = r.readBack := by
  obtain ⟨id, status, errors, detail⟩ := r
  rcases detail with - | (- | - | - | - | - | -) <;> rfl

/-- What stands for a detail reads as the detail that is left. -/
lemma decoder_detail {r : ItemResult} {v : Json} (hv : r.detail = some v) (h : v.isCanonical) :
    Decoder.value.optional .json v.toDocument = .ok r.readBack.detail := by
  obtain ⟨id, status, errors, detail⟩ := r
  obtain rfl : detail = some v := hv
  cases v with
  | null => rfl
  | bool | number | text | array | object =>
    exact optional_eq_ok_iff.mpr (.inr ⟨_, nofun, Decoder.value_toDocument h, rfl⟩)

lemma decoder_toJson {r : ItemResult} (hdetail : ∀ v, r.detail = some v → v.isCanonical) :
    decoder .json r.toJson.toDocument = .ok r.readBack := by
  let members := [("id", some (.text r.id)), ("status", some (.text r.status.name)),
    ("errors", if r.errors.isEmpty then none else some (.array (r.errors.map ItemError.toJson))),
    ("detail", r.detail)]
  have hnames : (members.map Prod.fst).Nodup := by simp [members]
  have hid : (required "id" Decoder.text).Reads members r.id := .required hnames (.head _) rfl
  have hstatus : (required "status" ItemStatus.vocabulary.decoder).Reads members r.status :=
    .required hnames (.tail _ (.head _)) r.status.decoder_name
  have herrors :
      (absentAs "errors" [] (Decoder.list ItemError.decoder)).Reads members r.errors := by
    refine .field hnames (.tail _ (.tail _ (.head _))) (fun v hv => ?_) (fun hnone => ?_)
    · -- errors are only written if there are some, so this is the whole list
      have hsome : ¬r.errors.isEmpty := by
        intro hempty
        rw [if_pos hempty] at hv
        cases hv
      rw [if_neg hsome] at hv
      have hlist : Decoder.list ItemError.decoder .json
          (Json.array (r.errors.map ItemError.toJson)).toDocument = .ok (r.errors.map fun e => e) :=
        Decoder.list_array fun e _ => e.decoder_toJson
      rwa [List.map_id', Option.some.inj hv] at hlist
    · by_cases hempty : r.errors.isEmpty
      · rw [List.isEmpty_iff.mp hempty]
      · rw [if_neg hempty] at hnone
        cases hnone
  have hback : (optional "detail" Decoder.value).Reads members r.readBack.detail :=
    .field hnames (.tail _ (.tail _ (.tail _ (.head _))))
      (fun v hv => decoder_detail hv (hdetail v hv)) fun hnone => by rw [readBack, hnone]
  exact (((hid.map.seq hstatus).seq herrors).seq hback).record "ItemResult"

/-- Nothing but the detail can be nested deeply. -/
lemma depth_toJson_le_iff {r : ItemResult} {n : Nat} : r.toJson.depth ≤ n + 3 ↔
    ∀ v, r.detail = some v → v.depth ≤ n + 2 := by
  rw [toJson, Json.depth_present_le_iff]
  constructor
  · intro h v hv
    exact h "detail" v (hv ▸ .tail _ (.tail _ (.tail _ (.head _))))
  · intro h name v hmem
    simp only [List.mem_cons, Prod.mk.injEq, Option.some.injEq, List.not_mem_nil, or_false] at hmem
    rcases hmem with ⟨-, rfl⟩ | ⟨-, rfl⟩ | ⟨-, herrors⟩ | ⟨-, hdetail⟩
    · exact Nat.zero_le _
    · exact Nat.zero_le _
    · have hflat : ∀ v ∈ r.errors.map ItemError.toJson, v.depth ≤ 1 := by
        rw [List.forall_mem_map]
        exact fun e _ => Nat.le_refl 1
      split at herrors
      · cases herrors
      · obtain rfl := Option.some.inj herrors
        have := Json.itemsDepth_le_iff.mpr hflat
        rw [Json.depth]
        omega
    · exact h v hdetail.symm

/-- Nothing but the detail can hold a number. -/
lemma isExact_toJson {r : ItemResult} (h : ∀ v, r.detail = some v → v.isExact) :
    r.toJson.isExact := by
  refine Json.isExact_present fun name v hmem => ?_
  simp only [List.mem_cons, Prod.mk.injEq, Option.some.injEq, List.not_mem_nil, or_false] at hmem
  rcases hmem with ⟨-, rfl⟩ | ⟨-, rfl⟩ | ⟨-, herrors⟩ | ⟨-, hdetail⟩
  · rfl
  · rfl
  · split at herrors
    · cases herrors
    · obtain rfl := Option.some.inj herrors
      rw [Json.isExact, Json.areExact_iff, List.forall_mem_map]
      exact fun e _ => rfl
  · exact h v hdetail.symm

end ItemResult

/-! ## Durations and statistics -/

lemma Duration.millis_lt (d : Duration) : d.millis < UInt64.size := by
  unfold millis UInt64.size
  omega

lemma Duration.decoder_toJson (d : Duration) :
    decoder .json d.toJson.toDocument = .ok (.ofMillis d.millis) :=
  decoder_whole d.millis_lt

/-- A document holds the whole milliseconds of a duration. -/
lemma Duration.nanos_ofMillis_millis (d : Duration) :
    (ofMillis d.millis).nanos =
      min (d.nanos / nanosPerMilli) (UInt64.size - 1) * nanosPerMilli := by
  show min (d.millis * nanosPerMilli) maxNanos = d.millis * nanosPerMilli
  have hlt := d.millis_lt
  unfold maxNanos nanosPerMilli UInt64.size at *
  omega

/-- Whole milliseconds are kept. -/
lemma Duration.millis_ofMillis_millis (d : Duration) : (ofMillis d.millis).millis = d.millis := by
  rw [millis, nanos_ofMillis_millis]
  unfold millis nanosPerMilli UInt64.size
  omega

namespace AttemptStats

/-- Statistics as they are read back: in whole milliseconds. -/
def readBack (s : AttemptStats) : AttemptStats :=
  { s with waited := .ofMillis s.waited.millis }

lemma readBack_readBack (s : AttemptStats) : s.readBack.readBack = s.readBack := by
  rw [readBack, readBack, Duration.millis_ofMillis_millis]

lemma decoder_toJson (s : AttemptStats) : decoder .json s.toJson.toDocument = .ok s.readBack := by
  let members := [("attempts", some (.whole s.attempts.toNat)),
    ("connection_retries", some (.whole s.connectionRetries.toNat)),
    ("timeout_retries", some (.whole s.timeoutRetries.toNat)), ("waited_ms", some s.waited.toJson)]
  have hnames : (members.map Prod.fst).Nodup := by simp [members]
  have hattempts : (required "attempts" Decoder.word32).Reads members s.attempts :=
    .required hnames (.head _) (Decoder.word32_whole _)
  have hconnection : (required "connection_retries" Decoder.word32).Reads members
      s.connectionRetries := .required hnames (.tail _ (.head _)) (Decoder.word32_whole _)
  have htimeout : (required "timeout_retries" Decoder.word32).Reads members s.timeoutRetries :=
    .required hnames (.tail _ (.tail _ (.head _))) (Decoder.word32_whole _)
  have hwaited : (required "waited_ms" Duration.decoder).Reads members
      (.ofMillis s.waited.millis) :=
    .required hnames (.tail _ (.tail _ (.tail _ (.head _)))) s.waited.decoder_toJson
  exact (((hattempts.map.seq hconnection).seq htimeout).seq hwaited).record "AttemptStats"

lemma isExact_toJson (s : AttemptStats) : s.toJson.isExact := by
  have hword (n : UInt32) : n.toNat < UInt64.size := Nat.lt_trans n.toNat_lt (by decide)
  rw [toJson, Json.isExact, Json.membersAreExact_iff]
  simp [Json.isExact_whole (hword _), Duration.toJson, Json.isExact_whole s.waited.millis_lt]

end AttemptStats

/-! ## Results of batches -/

namespace BatchResult

/-- A result as it is read back. -/
def readBack (r : BatchResult) : BatchResult :=
  { r with items := r.items.map ItemResult.readBack, stats := r.stats.readBack }

lemma readBack_readBack (r : BatchResult) : r.readBack.readBack = r.readBack := by
  simp only [readBack, List.map_map, AttemptStats.readBack_readBack]
  rw [show ItemResult.readBack ∘ ItemResult.readBack = ItemResult.readBack from
    funext ItemResult.readBack_readBack]

/-- A result that a document can hold. -/
structure Legible (r : BatchResult) : Prop where
  /-- Its number is a 64-bit word. -/
  sequence_lt : r.sequence < UInt64.size
  /-- Its details are free values, which are always kept canonical. -/
  isCanonical : ∀ item ∈ r.items, ∀ v, item.detail = some v → v.isCanonical
  /-- They have no numbers but whole ones within a 64-bit word. -/
  isExact : ∀ item ∈ r.items, ∀ v, item.detail = some v → v.isExact
  /-- The document is not nested more deeply than a reader follows. -/
  depth_le : r.toJson.depth ≤ Document.nestingBound

lemma decoder_toJson {r : BatchResult} (h : r.Legible) :
    decoder .json r.toJson.toDocument = .ok r.readBack := by
  let members := [("batch", some (.whole r.sequence)),
    ("items", some (.array (r.items.map ItemResult.toJson))), ("error", r.error.map Fault.toJson),
    ("stats", some r.stats.toJson)]
  have hnames : (members.map Prod.fst).Nodup := by simp [members]
  have hsequence : (required "batch" (Decoder.natural 64 "u64")).Reads members r.sequence :=
    .required hnames (.head _) (Decoder.natural_whole h.sequence_lt)
  have hitems : (required "items" (Decoder.list ItemResult.decoder)).Reads members
      r.readBack.items :=
    .required hnames (.tail _ (.head _)) <|
      Decoder.list_array fun item hitem => ItemResult.decoder_toJson (h.isCanonical item hitem)
  have herror : (optional "error" Fault.decoder).Reads members r.error := by
    refine .field hnames (.tail _ (.tail _ (.head _))) (fun v hv => ?_) (fun hnone => ?_)
    · obtain ⟨fault, hfault, rfl⟩ := Option.map_eq_some_iff.mp hv
      have hnull : fault.toJson.toDocument ≠ .null := by cases fault <;> nofun
      exact optional_eq_ok_iff.mpr (.inr ⟨fault, hnull, fault.decoder_toJson, hfault⟩)
    · rw [Option.map_eq_none_iff.mp hnone]
  have hstats : (absentAs "stats" {} AttemptStats.decoder).Reads members r.stats.readBack :=
    .field hnames (.tail _ (.tail _ (.tail _ (.head _))))
      (fun v hv => Option.some.inj hv ▸ r.stats.decoder_toJson) nofun
  exact (((hsequence.map.seq hitems).seq herror).seq hstats).record "AggregatedResult"

/-- Nothing but the details can be nested deeply. -/
lemma depth_toJson_le_iff {r : BatchResult} {n : Nat} : r.toJson.depth ≤ n + 5 ↔
    ∀ item ∈ r.items, ∀ v, item.detail = some v → v.depth ≤ n + 2 := by
  have hitems : (Json.array (r.items.map ItemResult.toJson)).depth ≤ n + 4 ↔
      ∀ item ∈ r.items, ∀ v, item.detail = some v → v.depth ≤ n + 2 := by
    rw [Json.depth, Nat.add_le_add_iff_right, Json.itemsDepth_le_iff, List.forall_mem_map]
    simp only [ItemResult.depth_toJson_le_iff]
  rw [toJson, Json.depth_present_le_iff, ← hitems]
  constructor
  · intro h
    exact h "items" _ (.tail _ (.head _))
  · intro h name v hmem
    simp only [List.mem_cons, Prod.mk.injEq, Option.some.injEq, List.not_mem_nil, or_false] at hmem
    rcases hmem with ⟨-, rfl⟩ | ⟨-, rfl⟩ | ⟨-, herror⟩ | ⟨-, rfl⟩
    · exact Nat.zero_le _
    · exact h
    · obtain ⟨fault, -, rfl⟩ := Option.map_eq_some_iff.mp herror.symm
      rw [fault.depth_toJson]
      omega
    · exact Nat.le_add_left 1 (n + 3)

lemma isExact_toJson {r : BatchResult} (h : r.Legible) : r.toJson.isExact := by
  refine Json.isExact_present fun name v hmem => ?_
  simp only [List.mem_cons, Prod.mk.injEq, Option.some.injEq, List.not_mem_nil, or_false] at hmem
  rcases hmem with ⟨-, rfl⟩ | ⟨-, rfl⟩ | ⟨-, herror⟩ | ⟨-, rfl⟩
  · exact Json.isExact_whole h.sequence_lt
  · rw [Json.isExact, Json.areExact_iff, List.forall_mem_map]
    exact fun item hitem => ItemResult.isExact_toJson (h.isExact item hitem)
  · obtain ⟨fault, -, rfl⟩ := Option.map_eq_some_iff.mp herror.symm
    exact fault.isExact_toJson
  · exact r.stats.isExact_toJson

lemma Legible.readBack {r : BatchResult} (h : r.Legible) : r.readBack.Legible := by
  have hdetail : ∀ item ∈ r.readBack.items, ∀ v, item.detail = some v →
      ∃ item ∈ r.items, item.detail = some v := by
    intro item hitem v hv
    obtain ⟨written, hwritten, rfl⟩ := List.mem_map.mp hitem
    exact ⟨written, hwritten, ItemResult.detail_readBack hv⟩
  refine ⟨h.sequence_lt, fun item hitem v hv => ?_, fun item hitem v hv => ?_, ?_⟩
  · obtain ⟨item, hitem, hv⟩ := hdetail item hitem v hv
    exact h.isCanonical item hitem v hv
  · obtain ⟨item, hitem, hv⟩ := hdetail item hitem v hv
    exact h.isExact item hitem v hv
  · -- only details count here, and each of them was there before
    have hdepth : r.toJson.depth ≤ 122 + 5 := h.depth_le
    show r.readBack.toJson.depth ≤ 122 + 5
    rw [depth_toJson_le_iff] at hdepth ⊢
    intro item hitem v hv
    obtain ⟨item, hitem, hv⟩ := hdetail item hitem v hv
    exact hdepth item hitem v hv

/-! ## Main statement -/

/-- The text of a result is read back as that result, but for the fractions of a millisecond in what
was waited and for details that are null. Written and read once more, it stays as it is. -/
theorem reads_back {r : BatchResult} (h : r.Legible) :
    Decoder.decodeText decoder r.toJson.print = .ok r.readBack ∧
      Decoder.decodeText decoder r.readBack.toJson.print = .ok r.readBack ∧
      r.readBack.stats.waited.nanos =
        min (r.stats.waited.nanos / 1000000) (UInt64.size - 1) * 1000000 := by
  have honce {r : BatchResult} (h : r.Legible) :
      Decoder.decodeText decoder r.toJson.print = .ok r.readBack :=
    Decoder.decodeText_print (isExact_toJson h) h.depth_le (decoder_toJson h)
  have htwice := honce h.readBack
  rw [readBack_readBack] at htwice
  exact ⟨honce h, htwice, r.stats.waited.nanos_ofMillis_millis⟩

/-! A result at the limits of its numbers, with a detail that is null. -/

def extreme : BatchResult where
  sequence := UInt64.size - 1
  items :=
    [⟨"\x00 \u00e9 \"quoted\"", .failed, [⟨"first\nline"⟩, ⟨""⟩],
        some (.object [("a", .array [.whole (-0x8000000000000000)]), ("b", .null)])⟩,
      ⟨"", .success, [], some .null⟩]
  error := some (.status 503 "unavailable")
  stats := { attempts := 0xFFFFFFFF, waited := .greatest }

theorem reads_back_extreme :
    extreme.Legible ∧
      Decoder.decodeText decoder extreme.toJson.print = .ok extreme.readBack ∧
      extreme.readBack.items[1]? = some ⟨"", .success, [], none⟩ ∧
      extreme.readBack.stats.waited.nanos = 18446744073709551615 * 1000000 := by
  have hlegible : extreme.Legible := by
    constructor
    case sequence_lt =>
      decide
    case isCanonical =>
      simp [extreme]
      decide
    case isExact =>
      simp [extreme]
      decide
    case depth_le =>
      decide
  obtain ⟨hread, -, hwaited⟩ := reads_back hlegible
  exact ⟨hlegible, hread, rfl, hwaited⟩

end BatchResult

end BulkWrite
