import BulkWrite.Config
import BulkWrite.Proofs.Decode.Results

/-!
# Configurations that are read back

The document of a configuration has no key. All else reads back as it was, for a unit of the waits
that is a whole number of milliseconds; every unit that was read is one. Main statement: what was
read from a text is read again from its own text, but for the key, and keys leave no trace in texts
(`Config.written_without_key`).
-/

namespace BulkWrite

open Fields

/-! ## Durations of whole milliseconds -/

lemma Decoder.lt_of_natural {bits n : Nat} {wanted : String} {d : Document}
    (h : natural bits wanted .json d = .ok n) : n < Nat.pow 2 bits := by
  unfold natural at h
  split at h
  · split at h
    · rename_i hrange
      obtain rfl := Except.ok.inj h
      omega
    · cases h
  · cases h

namespace Duration

lemma millis_ofMillis {n : Nat} (h : n < UInt64.size) : (ofMillis n).millis = n := by
  show min (min (n * nanosPerMilli) maxNanos / nanosPerMilli) (UInt64.size - 1) = n
  unfold maxNanos nanosPerMilli UInt64.size at *
  omega

/-- A duration of whole milliseconds, as many as a 64-bit word holds. -/
def IsWhole (t : Duration) : Prop :=
  ofMillis t.millis = t

/-- A duration that was read is one of whole milliseconds. -/
lemma isWhole_of_decoder {d : Document} {t : Duration} (h : decoder .json d = .ok t) :
    t.IsWhole := by
  have hnatural : ∃ n, n < UInt64.size ∧ ofMillis n = t := by
    rw [decoder, Decoder.map] at h
    cases hread : Decoder.natural 64 "u64" .json d with
    | error cause =>
      rw [hread] at h
      cases h
    | ok n =>
      rw [hread] at h
      refine ⟨n, ?_, Except.ok.inj h⟩
      exact Decoder.lt_of_natural hread
  obtain ⟨n, hn, rfl⟩ := hnatural
  rw [IsWhole, millis_ofMillis hn]

end Duration

/-! ## The parts of a configuration -/

namespace RetryPolicy

lemma isWhole_of_decoder {d : Document} {p : RetryPolicy} (h : decoder .json d = .ok p) :
    p.baseInterval.IsWhole := by
  obtain ⟨-, hfields⟩ := record_eq_ok_iff.mp h
  simp only [read_seq_iff, read_map_iff, read_required_iff] at hfields
  obtain ⟨-, -, ⟨-, -, ⟨interval, ⟨part, -, hinterval⟩, rfl⟩, -, rfl⟩, -, rfl⟩ := hfields
  exact Duration.isWhole_of_decoder hinterval

lemma decoder_toJson {p : RetryPolicy} (h : p.baseInterval.IsWhole) :
    decoder .json p.toJson.toDocument = .ok p := by
  let members := [("base_interval_ms", some p.baseInterval.toJson),
    ("max_connection_retries", some (.whole p.maxConnectionRetries.toNat)),
    ("max_timeout_retries", some (.whole p.maxTimeoutRetries.toNat))]
  have hnames : (members.map Prod.fst).Nodup := by simp [members]
  have hinterval : (required "base_interval_ms" Duration.decoder).Reads members p.baseInterval := by
    have hread := p.baseInterval.decoder_toJson
    rw [show Duration.ofMillis p.baseInterval.millis = p.baseInterval from h] at hread
    exact .required hnames (.head _) hread
  have hconnection : (required "max_connection_retries" Decoder.word32).Reads members
      p.maxConnectionRetries := .required hnames (.tail _ (.head _)) (Decoder.word32_whole _)
  have htimeout : (required "max_timeout_retries" Decoder.word32).Reads members
      p.maxTimeoutRetries :=
    .required hnames (.tail _ (.tail _ (.head _))) (Decoder.word32_whole _)
  exact ((hinterval.map.seq hconnection).seq htimeout).record "RetryPolicy"

lemma isExact_toJson (p : RetryPolicy) : p.toJson.isExact := by
  have hword (n : UInt32) : n.toNat < UInt64.size := Nat.lt_trans n.toNat_lt (by decide)
  rw [toJson, Json.isExact, Json.membersAreExact_iff]
  simp [Json.isExact_whole (hword _), Duration.toJson, Json.isExact_whole p.baseInterval.millis_lt]

end RetryPolicy

lemma Consistency.decoder_name (level : Consistency) :
    vocabulary.decoder .json (Json.text level.name).toDocument = .ok level := by
  cases level <;> rfl

namespace BatchingConfig

lemma decoder_toJson (b : BatchingConfig) : decoder .json b.toJson.toDocument = .ok b := by
  let members := [("batch_size", some (Json.whole b.batchSize.toNat)),
    ("pool_size", some (.whole b.poolSize.toNat))]
  have hnames : (members.map Prod.fst).Nodup := by simp [members]
  have hbatch : (required "batch_size" Decoder.size).Reads members b.batchSize :=
    .required hnames (.head _) (Decoder.size_whole _)
  have hpool : (required "pool_size" Decoder.size).Reads members b.poolSize :=
    .required hnames (.tail _ (.head _)) (Decoder.size_whole _)
  exact (hbatch.map.seq hpool).record "BatchingConfig"

lemma isExact_toJson (b : BatchingConfig) : b.toJson.isExact := by
  have hword (n : UInt64) : n.toNat < UInt64.size := n.toNat_lt
  rw [toJson, Json.isExact, Json.membersAreExact_iff]
  simp [Json.isExact_whole (hword _)]

end BatchingConfig

namespace EndpointConfig

/-- The endpoint without its key. -/
def withoutKey (e : EndpointConfig) : EndpointConfig :=
  { e with apiKey := none }

/-- What stands for the level of consistency: its name, or null. -/
def levelJson (e : EndpointConfig) : Json :=
  (e.consistency.map fun c => .text c.name).getD .null

lemma decoder_levelJson (e : EndpointConfig) :
    Consistency.vocabulary.decoder.optional .json e.levelJson.toDocument = .ok e.consistency := by
  unfold levelJson
  cases e.consistency with
  | none => rfl
  | some level =>
    have hname := level.decoder_name
    exact optional_eq_ok_iff.mpr (.inr ⟨level, nofun, hname, rfl⟩)

/-- The key was not written, so there is none afterwards. -/
lemma decoder_toJson (e : EndpointConfig) :
    decoder .json e.toJson.toDocument = .ok e.withoutKey := by
  let members := [("base_url", some (.text e.baseUrl)), ("api_key", none),
    ("timeout_ms", some (.whole e.timeoutMs.toNat)), ("consistency_level", some e.levelJson)]
  have hnames : (members.map Prod.fst).Nodup := by simp [members]
  have hbase : (required "base_url" Decoder.text).Reads members e.baseUrl :=
    .required hnames (.head _) rfl
  have hkey : (optional "api_key" Decoder.text).Reads members none :=
    .field hnames (.tail _ (.head _)) nofun fun _ => rfl
  have htimeout : (absentAs "timeout_ms" defaultTimeoutMs Decoder.word64).Reads members
      e.timeoutMs :=
    .field hnames (.tail _ (.tail _ (.head _)))
      (fun v hv => Option.some.inj hv ▸ Decoder.word64_whole e.timeoutMs) nofun
  have hlevel : (optional "consistency_level" Consistency.vocabulary.decoder).Reads members
      e.consistency :=
    .field hnames (.tail _ (.tail _ (.tail _ (.head _))))
      (fun v hv => Option.some.inj hv ▸ e.decoder_levelJson) nofun
  exact (((hbase.map.seq hkey).seq htimeout).seq hlevel).record "EndpointConfig"

lemma isExact_toJson (e : EndpointConfig) : e.toJson.isExact := by
  have hlevel : e.levelJson.isExact := by
    unfold levelJson
    cases e.consistency <;> rfl
  have htimeout := Json.isExact_whole e.timeoutMs.toNat_lt
  show (Json.object [("base_url", .text e.baseUrl), ("timeout_ms", .whole e.timeoutMs.toNat),
    ("consistency_level", e.levelJson)]).isExact
  simp [Json.isExact, Json.membersAreExact, htimeout, hlevel]

end EndpointConfig

namespace Config

/-- The configuration without the key of its endpoint. -/
def withoutKey (c : Config) : Config :=
  { c with endpoint := c.endpoint.withoutKey }

lemma toJson_withoutKey (c : Config) : c.withoutKey.toJson = c.toJson :=
  rfl

lemma validate_withoutKey (c : Config) : c.withoutKey.validate = c.validate :=
  rfl

lemma decoder_toJson {c : Config}
    (h : c.retry.baseInterval.IsWhole) :
    decoder .json c.toJson.toDocument = .ok c.withoutKey := by
  let members := [("endpoint", some c.endpoint.toJson), ("batching", some c.batching.toJson),
    ("retry", some c.retry.toJson)]
  have hnames : (members.map Prod.fst).Nodup := by simp [members]
  have hendpoint : (required "endpoint" EndpointConfig.decoder).Reads members
      c.endpoint.withoutKey := .required hnames (.head _) c.endpoint.decoder_toJson
  have hbatching : (absentAs "batching" {} BatchingConfig.decoder).Reads members c.batching :=
    .field hnames (.tail _ (.head _))
      (fun v hv => Option.some.inj hv ▸ c.batching.decoder_toJson) nofun
  have hretry : (required "retry" RetryPolicy.decoder).Reads members c.retry :=
    .required hnames (.tail _ (.tail _ (.head _))) (RetryPolicy.decoder_toJson h)
  exact ((hendpoint.map.seq hbatching).seq hretry).record "BatchlineConfig"

lemma isExact_toJson (c : Config) : c.toJson.isExact := by
  simp [toJson, Json.isExact, Json.membersAreExact, c.endpoint.isExact_toJson,
    c.batching.isExact_toJson, c.retry.isExact_toJson]

/-- A configuration is a document of flat records. -/
lemma depth_toJson (c : Config) : c.toJson.depth = 2 := by
  have hendpoint : c.endpoint.toJson.depth = 1 := by
    unfold EndpointConfig.toJson
    cases c.endpoint.consistency <;> rfl
  have hbatching : c.batching.toJson.depth = 1 := rfl
  have hretry : c.retry.toJson.depth = 1 := rfl
  simp [toJson, Json.depth, Json.membersDepth, hendpoint, hbatching, hretry]

/-- What was decoded is decoded again, but for the key. -/
lemma decodeText_toJson {c : Config}
    (h : c.retry.baseInterval.IsWhole) :
    Decoder.decodeText decoder c.toJson.print = .ok c.withoutKey := by
  have hdepth : c.toJson.depth ≤ Document.nestingBound := by
    rw [depth_toJson]
    decide
  exact Decoder.decodeText_print c.isExact_toJson hdepth (decoder_toJson h)

lemma isWhole_of_decodeText {s : String} {c : Config} (h : Decoder.decodeText decoder s = .ok c) :
    c.retry.baseInterval.IsWhole := by
  obtain ⟨d, -, hdecode⟩ := Decoder.decodeText_eq_ok_iff.mp h
  obtain ⟨-, hfields⟩ := record_eq_ok_iff.mp hdecode
  simp only [read_seq_iff, read_map_iff, read_required_iff] at hfields
  obtain ⟨-, retry, ⟨-, -, ⟨-, -, rfl⟩, -, rfl⟩, ⟨part, -, hretry⟩, rfl⟩ := hfields
  exact RetryPolicy.isWhole_of_decoder hretry

/-! ## Main statement -/

/-- **Configurations without their keys.** A configuration that was read from a text is read again
from its own text, without the key of its endpoint and otherwise the same, and it is as valid as
before. Configurations that differ in nothing but their keys have the same text, and those that were
read have the same text only then. -/
theorem written_without_key :
    (∀ s c, Decoder.decodeText decoder s = .ok c →
      Decoder.decodeText decoder c.toJson.print = .ok c.withoutKey ∧
        c.withoutKey.validate = c.validate) ∧
    (∀ c c' : Config, c.withoutKey = c'.withoutKey → c.toJson.print = c'.toJson.print) ∧
    ∀ s s' c c', Decoder.decodeText decoder s = .ok c → Decoder.decodeText decoder s' = .ok c' →
      c.toJson.print = c'.toJson.print → c.withoutKey = c'.withoutKey := by
  have hread {s : String} {c : Config} (h : Decoder.decodeText decoder s = .ok c) :
      Decoder.decodeText decoder c.toJson.print = .ok c.withoutKey :=
    decodeText_toJson (isWhole_of_decodeText h)
  refine ⟨fun s c h => ⟨hread h, c.validate_withoutKey⟩, ?_, ?_⟩
  · intro c c' hsame
    rw [← c.toJson_withoutKey, hsame, toJson_withoutKey]
  · intro s s' c c' h h' htext
    have hc := hread h
    rw [htext, hread h'] at hc
    exact (Except.ok.inj hc).symm

/-! A document in another form: members in another order, a record as a sequence, and sizes, deadline
and level left out. -/

def keyedDocument : Json :=
  .object [("retry", .array [.whole 400, .whole 2, .whole 3]),
    ("endpoint", .object [("api_key", .text "secret"), ("base_url", .text "http://localhost")])]

def keyed : Config where
  endpoint := { baseUrl := "http://localhost", apiKey := some "secret" }
  retry := ⟨.ofMillis 400, 2, 3⟩

theorem written_without_key_keyed :
    Decoder.decodeText decoder keyedDocument.print = .ok keyed ∧
      Decoder.decodeText decoder keyed.toJson.print = .ok keyed.withoutKey ∧
      keyed.withoutKey.endpoint.apiKey = none ∧ keyed.withoutKey.validate = .ok () ∧
      keyed.toJson.print = keyed.withoutKey.toJson.print := by
  have hkeyed : Decoder.decodeText decoder keyedDocument.print = .ok keyed :=
    Decoder.decodeText_eq_ok_iff.mpr ⟨_, Document.read?_print keyedDocument, rfl⟩
  obtain ⟨hread, hsame, -⟩ := written_without_key
  obtain ⟨hagain, hvalid⟩ := hread _ _ hkeyed
  exact ⟨hkeyed, hagain, rfl, hvalid, hsame _ _ rfl⟩

end Config

end BulkWrite
