import BulkWrite.Config.Loader
import BulkWrite.Proofs.Decode.Written

/-!
# Settings as a person gives them

Settings stand in the environment as the texts of variables (`Environment.Gives`), or in a document
as the members of records (`Document.Holds`). Any settings can stand in either
(`Settings.gives`, `Settings.holds_toDocument`). What configuration they come to depends on how the
word for the level is taken: as a person means it or as it is spelled (`Settings.config?`).
-/

namespace BulkWrite

/-! ## Settings -/

/-- The settings of a client as a person gives them: some may be absent, and the level of
consistency is a word. -/
structure Settings where
  baseUrl : String
  apiKey : Option String := none
  consistency : Option String := none
  timeoutMs : Option UInt64 := none
  /-- Both sizes are given or neither. -/
  sizes : Option BatchingConfig := none
  baseIntervalMs : UInt64
  maxConnectionRetries : UInt32
  maxTimeoutRetries : UInt32

namespace Settings

variable {s : Settings}

/-- The configuration of the settings, with what was made of the key and of the level. -/
def toConfig (s : Settings) (apiKey : Option String) (level : Option Consistency) : Config where
  endpoint := ⟨s.baseUrl, apiKey, s.timeoutMs.getD EndpointConfig.defaultTimeoutMs, level⟩
  batching := s.sizes.getD {}
  retry := ⟨.ofMillis s.baseIntervalMs.toNat, s.maxConnectionRetries, s.maxTimeoutRetries⟩

/-- The level of a word as a person means it. -/
def meant? (word : String) : Option Consistency :=
  Consistency.vocabulary.find? (Text.foldCase (Text.trim word))

/-- The level of a word as it is spelled. -/
def spelled? (word : String) : Option Consistency :=
  Consistency.vocabulary.find? word

/-- The level of the settings, if there is one for their word. -/
def level? (find? : String → Option Consistency) (s : Settings) : Option (Option Consistency) :=
  match s.consistency with
  | some word => (find? word).map some
  | none => some none

/-- The valid configuration of the settings, if there is one. -/
def config? (find? : String → Option Consistency) (apiKey : Option String) (s : Settings) :
    Option Config :=
  (s.level? find?).bind fun level => (Config.checked (s.toConfig apiKey level)).toOption

/-- Settings within the limits: an address, no deadline at once and no size of zero. -/
structure IsWithinLimits (s : Settings) : Prop where
  baseUrl_ne : Text.trim s.baseUrl ≠ ""
  timeoutMs_ne : s.timeoutMs ≠ some 0
  sizes_ne : ∀ b, s.sizes = some b → b.batchSize ≠ 0 ∧ b.poolSize ≠ 0

/-- Settings that a client can use: within the limits, and with a word that means a level. -/
structure IsUsable (s : Settings) : Prop extends s.IsWithinLimits where
  isLevel : ∀ word, s.consistency = some word →
    Text.foldCase (Text.trim word) ∈ Consistency.vocabulary.spellings

/-- The word for the level is written as messages list it. -/
def IsSpelledOut (s : Settings) : Prop :=
  ∀ word, s.consistency = some word → word ∈ Consistency.vocabulary.spellings

end Settings

/-! ## The configuration of the settings -/

namespace Settings

variable {s : Settings} {find? : String → Option Consistency} {apiKey : Option String} {c : Config}

lemma isSome_level?_iff :
    (s.level? find?).isSome ↔ ∀ word, s.consistency = some word → (find? word).isSome := by
  rw [level?]
  cases s.consistency <;> simp

lemma isSome_find?_iff {word : String} : (Consistency.vocabulary.find? word).isSome ↔
    word ∈ Consistency.vocabulary.spellings := by
  rw [Vocabulary.find?, Vocabulary.spellings, List.lookup_isSome_iff, List.mem_map]
  refine exists_congr fun entry => and_congr_right fun _ => ?_
  rw [beq_iff_eq, eq_comm]

/-- A word as messages list it means what it spells. -/
lemma meant?_eq_spelled? {word : String} (h : word ∈ Consistency.vocabulary.spellings) :
    meant? word = spelled? word := by
  have hwords : word = "one" ∨ word = "quorum" ∨ word = "all" := by
    simpa [Vocabulary.spellings, Consistency.vocabulary] using h
  rcases hwords with rfl | rfl | rfl <;> decide

lemma level?_of_spelledOut (h : s.IsSpelledOut) : s.level? meant? = s.level? spelled? := by
  rw [level?, level?]
  cases hword : s.consistency with
  | none => rfl
  | some word =>
    show (meant? word).map some = (spelled? word).map some
    rw [meant?_eq_spelled? (h word hword)]

lemma validate_sizes_iff : ((s.sizes.getD {}).validate = .ok ()) ↔
    ∀ b, s.sizes = some b → b.batchSize ≠ 0 ∧ b.poolSize ≠ 0 := by
  cases s.sizes with
  | none =>
    have hdefault : (({} : BatchingConfig).validate = .ok ()) := rfl
    simp [hdefault]
  | some b =>
    rw [Option.getD_some, BatchingConfig.validate_eq_ok_iff]
    simp only [Option.some.injEq, forall_eq']

/-- Neither the key nor the level is checked any more. -/
lemma validate_toConfig_iff (level : Option Consistency) :
    (s.toConfig apiKey level).validate = .ok () ↔ s.IsWithinLimits := by
  have hbase : (Text.trim s.baseUrl).isEmpty ↔ Text.trim s.baseUrl = "" := String.isEmpty_iff
  have htimeout : s.timeoutMs.getD EndpointConfig.defaultTimeoutMs = 0 ↔ s.timeoutMs = some 0 := by
    cases s.timeoutMs with
    | none => simp [EndpointConfig.defaultTimeoutMs]
    | some n => simp
  unfold Config.validate toConfig
  dsimp only
  split
  · rename_i hempty
    refine iff_of_false nofun fun h => ?_
    exact h.baseUrl_ne (hbase.mp hempty)
  · rename_i hfull
    split
    · rename_i hzero
      refine iff_of_false nofun fun h => ?_
      exact h.timeoutMs_ne (htimeout.mp hzero)
    · rename_i hpositive
      rw [Fields.mapError_eq_ok_iff, validate_sizes_iff]
      constructor
      · intro hsizes
        exact ⟨fun h => hfull (hbase.mpr h), fun h => hpositive (htimeout.mpr h), hsizes⟩
      · exact fun h => h.sizes_ne

lemma config?_eq_some_iff : s.config? find? apiKey = some c ↔
    s.IsWithinLimits ∧ ∃ level, s.level? find? = some level ∧ s.toConfig apiKey level = c := by
  have hchecked (c' : Config) :
      (Config.checked c').toOption = some c ↔ c'.validate = .ok () ∧ c' = c := by
    rw [Config.checked]
    cases c'.validate <;> simp [Except.map, Except.toOption]
  rw [config?, Option.bind_eq_some_iff]
  simp only [hchecked, validate_toConfig_iff]
  constructor
  · rintro ⟨level, hlevel, hlimits, rfl⟩
    exact ⟨hlimits, level, hlevel, rfl⟩
  · rintro ⟨hlimits, level, hlevel, rfl⟩
    exact ⟨level, hlevel, hlimits, rfl⟩

lemma validate_of_config? (h : s.config? find? apiKey = some c) : c.validate = .ok () := by
  obtain ⟨hlimits, level, -, rfl⟩ := config?_eq_some_iff.mp h
  exact (validate_toConfig_iff level).mpr hlimits

/-- There is a configuration just when the settings are within the limits and have a level. -/
lemma isSome_config?_iff : (s.config? find? apiKey).isSome ↔
    s.IsWithinLimits ∧ (s.level? find?).isSome := by
  simp only [Option.isSome_iff_exists, config?_eq_some_iff]
  constructor
  · rintro ⟨c, hlimits, level, hlevel, -⟩
    exact ⟨hlimits, level, hlevel⟩
  · rintro ⟨hlimits, level, hlevel⟩
    exact ⟨_, hlimits, level, hlevel, rfl⟩

lemma isSome_config?_meant_iff (apiKey : Option String) :
    (s.config? meant? apiKey).isSome ↔ s.IsUsable := by
  rw [isSome_config?_iff, isSome_level?_iff]
  simp only [meant?, isSome_find?_iff]
  exact ⟨fun h => ⟨h.1, h.2⟩, fun h => ⟨h.toIsWithinLimits, h.isLevel⟩⟩

lemma isSome_config?_spelled_iff (apiKey : Option String) :
    (s.config? spelled? apiKey).isSome ↔ s.IsUsable ∧ s.IsSpelledOut := by
  have hspelled : (s.level? spelled?).isSome ↔ s.IsSpelledOut := by
    rw [isSome_level?_iff]
    simp only [spelled?, isSome_find?_iff]
    rfl
  rw [← isSome_config?_meant_iff apiKey, isSome_config?_iff, isSome_config?_iff, and_assoc,
    hspelled]
  constructor
  · rintro ⟨hlimits, hout⟩
    rw [level?_of_spelledOut hout, hspelled]
    exact ⟨hlimits, hout, hout⟩
  · rintro ⟨hlimits, -, hout⟩
    exact ⟨hlimits, hout⟩

end Settings

/-! ## The environment -/

/-- An environment that gives the settings: each in its variable, numbers in decimal, and no
variable for what is absent. -/
structure Environment.Gives (env : Environment) (s : Settings) : Prop where
  baseUrl : env.get? Config.endpointVariable = some s.baseUrl
  apiKey : env.get? Config.apiKeyVariable = s.apiKey
  consistency : env.get? Config.consistencyVariable = s.consistency
  timeoutMs : env.get? Config.timeoutVariable = s.timeoutMs.map fun n => toString n.toNat
  batchSize : env.get? Config.batchSizeVariable = s.sizes.map fun b => toString b.batchSize.toNat
  poolSize : env.get? Config.poolSizeVariable = s.sizes.map fun b => toString b.poolSize.toNat
  baseInterval : env.get? Config.baseIntervalVariable = some (toString s.baseIntervalMs.toNat)
  maxConnection :
    env.get? Config.maxConnectionVariable = some (toString s.maxConnectionRetries.toNat)
  maxTimeout : env.get? Config.maxTimeoutVariable = some (toString s.maxTimeoutRetries.toNat)

/-- The environment of the variables that have a text. -/
def Environment.present (texts : List (String × Option String)) : Environment :=
  ⟨texts.filter (·.2.isSome)⟩

lemma lookup_of_mem {β : Type} {name : String} {b : β} {l : List (String × β)}
    (hnames : (l.map Prod.fst).Nodup) (hmem : (name, b) ∈ l) : l.lookup name = some b := by
  induction l with
  | nil => cases hmem
  | cons entry l ih =>
    rw [List.map_cons, List.nodup_cons] at hnames
    rcases List.mem_cons.mp hmem with rfl | hmem
    · exact List.lookup_cons_self
    · have hne : (name == entry.1) = false := by
        rw [beq_eq_false_iff_ne]
        rintro rfl
        exact hnames.1 (List.mem_map.mpr ⟨_, hmem, rfl⟩)
      rw [List.lookup_cons, hne]
      exact ih hnames.2 hmem

lemma Environment.get?_present {texts : List (String × Option String)} {name : String}
    {value : Option String} (hnames : (texts.map Prod.fst).Nodup) (hmem : (name, value) ∈ texts) :
    (present texts).get? name = value := by
  rw [get?, present]
  cases value with
  | some text =>
    have hkept := hnames.sublist ((List.filter_sublist (p := (·.2.isSome))).map Prod.fst)
    rw [lookup_of_mem hkept (List.mem_filter.mpr ⟨hmem, rfl⟩)]
    rfl
  | none =>
    -- a variable of this name would have a text besides
    have hnone : (texts.filter (·.2.isSome)).lookup name = none := by
      rw [List.lookup_eq_none_iff]
      intro entry hentry
      obtain ⟨hentry, htext⟩ := List.mem_filter.mp hentry
      rw [bne_iff_ne]
      rintro rfl
      have hsame := (lookup_of_mem hnames hmem).symm.trans (lookup_of_mem hnames hentry)
      rw [← Option.some.inj hsame] at htext
      cases htext
    rw [hnone]
    rfl

/-- The texts of the settings, each with its variable. -/
def Settings.texts (s : Settings) : List (String × Option String) :=
  [(Config.endpointVariable, some s.baseUrl), (Config.apiKeyVariable, s.apiKey),
    (Config.consistencyVariable, s.consistency),
    (Config.timeoutVariable, s.timeoutMs.map fun n => toString n.toNat),
    (Config.batchSizeVariable, s.sizes.map fun b => toString b.batchSize.toNat),
    (Config.poolSizeVariable, s.sizes.map fun b => toString b.poolSize.toNat),
    (Config.baseIntervalVariable, some (toString s.baseIntervalMs.toNat)),
    (Config.maxConnectionVariable, some (toString s.maxConnectionRetries.toNat)),
    (Config.maxTimeoutVariable, some (toString s.maxTimeoutRetries.toNat))]

/-- Any settings can be given by an environment. -/
lemma Settings.gives (s : Settings) : (Environment.present s.texts).Gives s := by
  have hnames : (s.texts.map Prod.fst).Nodup := by
    simp only [texts, List.map_cons, List.map_nil]
    decide
  constructor <;> exact Environment.get?_present hnames (by simp [texts])

/-! ## A document -/

namespace Document

/-- A document of the endpoint of the settings. What is absent has no member. -/
structure HoldsEndpoint (s : Settings) (d : Document) : Prop where
  isRecord : d.IsRecord 4
  baseUrl : d.Part 0 "base_url" (some (.text s.baseUrl))
  apiKey : d.Part 1 "api_key" (s.apiKey.map .text)
  timeoutMs : d.Part 2 "timeout_ms" (s.timeoutMs.map fun n => .number (.whole n.toNat))
  consistency : d.Part 3 "consistency_level" (s.consistency.map .text)

/-- A document of the sizes. -/
structure HoldsSizes (b : BatchingConfig) (d : Document) : Prop where
  isRecord : d.IsRecord 2
  batchSize : d.Part 0 "batch_size" (some (.number (.whole b.batchSize.toNat)))
  poolSize : d.Part 1 "pool_size" (some (.number (.whole b.poolSize.toNat)))

/-- A document of the retry policy of the settings. -/
structure HoldsRetry (s : Settings) (d : Document) : Prop where
  isRecord : d.IsRecord 3
  baseInterval : d.Part 0 "base_interval_ms" (some (.number (.whole s.baseIntervalMs.toNat)))
  maxConnection :
    d.Part 1 "max_connection_retries" (some (.number (.whole s.maxConnectionRetries.toNat)))
  maxTimeout : d.Part 2 "max_timeout_retries" (some (.number (.whole s.maxTimeoutRetries.toNat)))

/-- A document that holds the settings, wherever its members stand and whatever else is there. -/
structure Holds (s : Settings) (d : Document) : Prop where
  isRecord : d.IsRecord 3
  endpoint : ∃ e, d.Part 0 "endpoint" (some e) ∧ e.HoldsEndpoint s
  batching : ∃ b, d.Part 1 "batching" b ∧ Option.Rel HoldsSizes s.sizes b
  retry : ∃ r, d.Part 2 "retry" (some r) ∧ r.HoldsRetry s

end Document

namespace Settings

/-- The members of the endpoint of the settings. -/
def endpointMembers (s : Settings) : List (String × Option Json) :=
  [("base_url", some (.text s.baseUrl)), ("api_key", s.apiKey.map .text),
    ("timeout_ms", s.timeoutMs.map fun n => .whole n.toNat),
    ("consistency_level", s.consistency.map .text)]

/-- The members of the retry policy. -/
def retryMembers (s : Settings) : List (String × Option Json) :=
  [("base_interval_ms", some (.whole s.baseIntervalMs.toNat)),
    ("max_connection_retries", some (.whole s.maxConnectionRetries.toNat)),
    ("max_timeout_retries", some (.whole s.maxTimeoutRetries.toNat))]

/-- The members of the sizes. -/
def sizeMembers (b : BatchingConfig) : List (String × Option Json) :=
  [("batch_size", some (.whole b.batchSize.toNat)), ("pool_size", some (.whole b.poolSize.toNat))]

/-- The members of the settings. -/
def members (s : Settings) : List (String × Option Json) :=
  [("endpoint", some (.present s.endpointMembers)),
    ("batching", s.sizes.map fun b => .present (sizeMembers b)),
    ("retry", some (.present s.retryMembers))]

/-- The document of the settings. -/
def toJson (s : Settings) : Json :=
  .present s.members

variable (s : Settings)

lemma holdsEndpoint : (Json.present s.endpointMembers).toDocument.HoldsEndpoint s := by
  have hnames : (s.endpointMembers.map Prod.fst).Nodup := by simp [endpointMembers]
  have hkey := Json.part_present 1 hnames (.tail _ (.head _))
  have htimeout := Json.part_present 2 hnames (.tail _ (.tail _ (.head _)))
  have hlevel := Json.part_present 3 hnames (.tail _ (.tail _ (.tail _ (.head _))))
  rw [Option.map_map] at hkey htimeout hlevel
  exact ⟨Json.isRecord_present 4 _, Json.part_present 0 hnames (.head _), hkey, htimeout, hlevel⟩

lemma holdsSizes (b : BatchingConfig) : (Json.present (sizeMembers b)).toDocument.HoldsSizes b := by
  have hnames : ((sizeMembers b).map Prod.fst).Nodup := by simp [sizeMembers]
  exact ⟨Json.isRecord_present 2 _, Json.part_present 0 hnames (.head _),
    Json.part_present 1 hnames (.tail _ (.head _))⟩

lemma holdsRetry : (Json.present s.retryMembers).toDocument.HoldsRetry s := by
  have hnames : (s.retryMembers.map Prod.fst).Nodup := by simp [retryMembers]
  exact ⟨Json.isRecord_present 3 _, Json.part_present 0 hnames (.head _),
    Json.part_present 1 hnames (.tail _ (.head _)),
    Json.part_present 2 hnames (.tail _ (.tail _ (.head _)))⟩

/-- The document of the settings holds them. -/
lemma holds_toDocument : s.toJson.toDocument.Holds s := by
  have hnames : (s.members.map Prod.fst).Nodup := by simp [members]
  have hbatching := Json.part_present 1 hnames (.tail _ (.head _))
  refine ⟨Json.isRecord_present 3 _,
    ⟨_, Json.part_present 0 hnames (.head _), s.holdsEndpoint⟩, ⟨_, hbatching, ?_⟩,
    ⟨_, Json.part_present 2 hnames (.tail _ (.tail _ (.head _))), s.holdsRetry⟩⟩
  cases s.sizes with
  | none => exact .none
  | some b => exact .some (holdsSizes b)

/-- A setting is a text or a 64-bit word. -/
def IsPlain (v : Json) : Prop :=
  (∃ text, v = .text text) ∨ ∃ n : Nat, n < UInt64.size ∧ v = .whole n

lemma isPlain_of_mem_endpointMembers {name : String} {v : Json}
    (h : (name, some v) ∈ s.endpointMembers) : IsPlain v := by
  simp only [endpointMembers, List.mem_cons, Prod.mk.injEq, Option.some.injEq, List.not_mem_nil,
    or_false] at h
  rcases h with ⟨-, rfl⟩ | ⟨-, hkey⟩ | ⟨-, htimeout⟩ | ⟨-, hlevel⟩
  · exact .inl ⟨_, rfl⟩
  · obtain ⟨key, -, rfl⟩ := Option.map_eq_some_iff.mp hkey.symm
    exact .inl ⟨key, rfl⟩
  · obtain ⟨n, -, rfl⟩ := Option.map_eq_some_iff.mp htimeout.symm
    exact .inr ⟨n.toNat, n.toNat_lt, rfl⟩
  · obtain ⟨word, -, rfl⟩ := Option.map_eq_some_iff.mp hlevel.symm
    exact .inl ⟨word, rfl⟩

lemma isPlain_of_mem_sizeMembers {b : BatchingConfig} {name : String} {v : Json}
    (h : (name, some v) ∈ sizeMembers b) : IsPlain v := by
  simp only [sizeMembers, List.mem_cons, Prod.mk.injEq, Option.some.injEq, List.not_mem_nil,
    or_false] at h
  rcases h with ⟨-, rfl⟩ | ⟨-, rfl⟩ <;> exact .inr ⟨_, UInt64.toNat_lt _, rfl⟩

lemma isPlain_of_mem_retryMembers {name : String} {v : Json}
    (h : (name, some v) ∈ s.retryMembers) : IsPlain v := by
  have hword (n : UInt32) : n.toNat < UInt64.size := Nat.lt_trans n.toNat_lt (by decide)
  simp only [retryMembers, List.mem_cons, Prod.mk.injEq, Option.some.injEq, List.not_mem_nil,
    or_false] at h
  rcases h with ⟨-, rfl⟩ | ⟨-, rfl⟩ | ⟨-, rfl⟩
  · exact .inr ⟨_, UInt64.toNat_lt _, rfl⟩
  · exact .inr ⟨_, hword _, rfl⟩
  · exact .inr ⟨_, hword _, rfl⟩

lemma exact_and_flat_of_plain {members : List (String × Option Json)}
    (h : ∀ name v, (name, some v) ∈ members → IsPlain v) :
    (Json.present members).isExact ∧ (Json.present members).depth ≤ 1 := by
  constructor
  · refine Json.isExact_present fun name v hmem => ?_
    rcases h name v hmem with ⟨text, rfl⟩ | ⟨n, hn, rfl⟩
    · rfl
    · exact Json.isExact_whole hn
  · refine Json.depth_present_le_iff.mpr fun name v hmem => ?_
    rcases h name v hmem with ⟨text, rfl⟩ | ⟨n, hn, rfl⟩ <;> exact Nat.le_refl 0

/-- It is the document that its text is read as. -/
lemma read?_print : Document.read? s.toJson.print = some s.toJson.toDocument := by
  have hparts : ∀ name v, (name, some v) ∈ s.members → v.isExact ∧ v.depth ≤ 1 := by
    intro name v hmem
    simp only [members, List.mem_cons, Prod.mk.injEq, Option.some.injEq, List.not_mem_nil,
      or_false] at hmem
    rcases hmem with ⟨-, rfl⟩ | ⟨-, hsizes⟩ | ⟨-, rfl⟩
    · exact exact_and_flat_of_plain fun _ _ => s.isPlain_of_mem_endpointMembers
    · obtain ⟨b, -, rfl⟩ := Option.map_eq_some_iff.mp hsizes.symm
      exact exact_and_flat_of_plain fun _ _ => isPlain_of_mem_sizeMembers
    · exact exact_and_flat_of_plain fun _ _ => s.isPlain_of_mem_retryMembers
  have hdepth : s.toJson.depth ≤ 2 :=
    Json.depth_present_le_iff.mpr fun name v hmem => (hparts name v hmem).2
  have hexact := Json.isExact_present fun name v hmem => (hparts name v hmem).1
  exact Document.read?_print_of_isExact hexact (Nat.le_trans hdepth (by decide))

end Settings

end BulkWrite
