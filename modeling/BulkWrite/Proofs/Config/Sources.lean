import BulkWrite.Proofs.Config.Settings

/-!
# Two sources of the same settings

The same settings can stand in the environment or in a file. Numbers mean the same in both, and so
does what is absent. Two settings do not: the level of consistency, whose letter case and blanks
count in a document only, and an empty key, which is no key in the environment and an empty one in a
document. Main statement: what each source gives, and when both give the same
(`Config.sources_compared`).
-/

namespace BulkWrite

/-! ## Numbers in variables -/

/-- The text of a number has its decimal digits. -/
lemma toList_toString (n : Nat) : (toString n).toList = Decimal.digitsOf n :=
  String.toList_ofList

lemma Text.trim_of_not_blank {s : String} (h : ∀ c ∈ s.toList, isBlank c = false) :
    trim s = s := by
  have hstart (cs : List Char) (hcs : ∀ c ∈ cs, isBlank c = false) : cs.dropWhile isBlank = cs := by
    cases cs with
    | nil => rfl
    | cons c cs => rw [List.dropWhile_cons, hcs c List.mem_cons_self]; rfl
  have hend := hstart s.toList.reverse fun c hmem => h c (List.mem_reverse.mp hmem)
  rw [trim, hstart s.toList h, trimEnd, hend, List.reverse_reverse, String.ofList_toList]

lemma Text.isBlank_of_isDigit {c : Char} (h : c.isDigit) : isBlank c = false := by
  obtain ⟨hlow, hhigh⟩ : 48 ≤ c.toNat ∧ c.toNat ≤ 57 := Char.isDigit_iff_toNat.mp h
  simp [isBlank]
  omega

/-- Digits form a number, as long as it has no more than so many bits. -/
lemma boundedNumber_of_lt {bits n : Nat} {cs : List Char} (hdigits : ∀ c ∈ cs, c.isDigit)
    (h : (cs.map Json.digitOf).foldl (fun n d => n * 10 + d) n < Nat.pow 2 bits) :
    boundedNumber bits n cs = .ok ((cs.map Json.digitOf).foldl (fun n d => n * 10 + d) n) := by
  induction cs generalizing n with
  | nil => rfl
  | cons c cs ih =>
    obtain ⟨hc, hcs⟩ := List.forall_mem_cons.mp hdigits
    rw [List.map_cons, List.foldl_cons] at h ⊢
    have hfits : n * 10 + (c.toNat - '0'.toNat) < Nat.pow 2 bits :=
      Nat.lt_of_le_of_lt (Json.le_foldl_digits _ _) h
    rw [boundedNumber, if_pos hc, if_pos hfits]
    exact ih hcs h

/-- The text of a number is parsed as that number. -/
lemma parseNumber_toString {bits n : Nat} (h : n < Nat.pow 2 bits) :
    parseNumber bits (Text.trim (toString n)) = .ok n := by
  have hdigits : ∀ c ∈ (toString n).toList, c.isDigit := by
    rw [toList_toString]
    exact fun c => Json.isDigit_of_mem_digitsOf
  rw [Text.trim_of_not_blank fun c hmem => Text.isBlank_of_isDigit (hdigits c hmem)]
  obtain ⟨c, cs, hcs, hc, -⟩ := Json.exists_digitsOf n
  have hnumber : boundedNumber bits 0 (c :: cs) = .ok n := by
    have hform := Json.foldl_digitsOf n
    rw [hcs] at hform
    rw [toList_toString, hcs] at hdigits
    rw [boundedNumber_of_lt hdigits (by rwa [hform]), hform]
  have hother (other : Char) (hdigit : other.isDigit = false) : c ≠ other := by
    rintro rfl
    rw [hdigit] at hc
    cases hc
  unfold parseNumber
  rw [toList_toString, hcs]
  split
  case h_1 heq => cases heq
  case h_5 => exact hnumber
  -- a digit is no sign
  all_goals
    rename_i heq
    exact absurd (List.cons.inj heq).1 (hother _ (by decide))

/-! ## The environment -/

namespace Config

variable {env : Environment} {s : Settings} {name : String}

/-- What a source gives: a value, or a fault of the settings where there is none. -/
inductive Yields {α : Type} : Except Error α → Option α → Prop
  | value (a : α) : Yields (.ok a) (some a)
  | fault (m : String) : Yields (.error (.config m)) none

/-- What is made of a value comes to a value or a fault itself. -/
lemma Yields.bind {α β : Type} {x : Except Error α} {o : Option α} {f : α → Except Error β}
    {g : α → Option β} (h : Yields x o) (hf : ∀ a, Yields (f a) (g a)) :
    Yields (x.bind f) (o.bind g) := by
  cases h with
  | value a => exact hf a
  | fault m => exact .fault m

/-- A fault of another kind becomes one of the settings. -/
lemma yields_mapError {ε α : Type} {x : Except ε α} {o : Option α}
    (h : ∀ a, x = .ok a ↔ o = some a) (message : ε → String) :
    Yields (x.mapError fun e => .config (message e)) o := by
  cases x with
  | ok a =>
    rw [(h a).mp rfl]
    exact .value a
  | error e =>
    cases o with
    | none => exact .fault (message e)
    | some a => cases (h a).mpr rfl

lemma requireNumber_eq {bits n : Nat} (hn : n < Nat.pow 2 bits)
    (h : env.get? name = some (toString n)) : requireNumber bits env name = .ok n := by
  have hvalue : requireText env name = .ok (toString n) := by simp only [requireText, h]
  simp only [requireNumber, hvalue, bind, Except.bind, parseNumber_toString hn, Except.mapError]

lemma numberOr_eq {o : Option UInt64} (default : UInt64)
    (h : env.get? name = o.map fun n => toString n.toNat) :
    numberOr default.toNat 64 env name = .ok (o.getD default).toNat := by
  cases o with
  | none =>
    rw [Option.map_none] at h
    rw [numberOr, h]
    rfl
  | some n =>
    rw [Option.map_some] at h
    rw [numberOr, h]
    show requireNumber 64 env name = .ok n.toNat
    exact requireNumber_eq n.toNat_lt h

/-- Settings are valid, or it is said what is wrong with them. -/
lemma yields_checked (c : Config) : Yields (checked c) (checked c).toOption := by
  have hvalid : c.validate = .ok () ∨ ∃ m, c.validate = .error (.config m) := by
    unfold validate
    split
    · exact .inr ⟨_, rfl⟩
    · split
      · exact .inr ⟨_, rfl⟩
      · cases c.batching.validate with
        | ok => exact .inl rfl
        | error e => exact .inr ⟨_, rfl⟩
  unfold checked
  rcases hvalid with h | ⟨m, h⟩ <;> rw [h]
  · exact .value c
  · exact .fault m

lemma ofEnvironment_eq (h : env.Gives s) :
    ofEnvironment env = (consistencyOf env).bind fun level =>
      checked (s.toConfig (s.apiKey.filter fun key => !key.isEmpty) level) := by
  have hbase : requireText env endpointVariable = .ok s.baseUrl := by
    rw [requireText, h.baseUrl]
  have htimeout := numberOr_eq EndpointConfig.defaultTimeoutMs h.timeoutMs
  have hbatch : numberOr BatchingConfig.defaultBatchSize.toNat 64 env batchSizeVariable =
      .ok (s.sizes.getD {}).batchSize.toNat := by
    have hsize := numberOr_eq (o := s.sizes.map BatchingConfig.batchSize)
      BatchingConfig.defaultBatchSize (by rw [h.batchSize, Option.map_map]; rfl)
    rw [hsize]
    cases s.sizes <;> rfl
  have hpool : numberOr BatchingConfig.defaultPoolSize.toNat 64 env poolSizeVariable =
      .ok (s.sizes.getD {}).poolSize.toNat := by
    have hsize := numberOr_eq (o := s.sizes.map BatchingConfig.poolSize)
      BatchingConfig.defaultPoolSize (by rw [h.poolSize, Option.map_map]; rfl)
    rw [hsize]
    cases s.sizes <;> rfl
  have hinterval := requireNumber_eq s.baseIntervalMs.toNat_lt h.baseInterval
  have hconnection := requireNumber_eq s.maxConnectionRetries.toNat_lt h.maxConnection
  have htime := requireNumber_eq s.maxTimeoutRetries.toNat_lt h.maxTimeout
  unfold ofEnvironment
  simp only [hbase, htimeout, hbatch, hpool, hinterval, hconnection, htime, h.apiKey, bind,
    Except.bind, UInt64.ofNat_toNat, UInt32.ofNat_toNat]
  rfl

lemma yields_consistencyOf (h : env.Gives s) :
    Yields (consistencyOf env) (s.level? Settings.meant?) := by
  rw [consistencyOf, Settings.level?, h.consistency]
  cases s.consistency with
  | none => exact .value none
  | some word =>
    simp only [Vocabulary.parse?, Settings.meant?]
    cases Consistency.vocabulary.find? (Text.foldCase (Text.trim word)) with
    | none => exact .fault _
    | some level => exact .value _

/-- The environment gives the settings as a person means them; an empty key is none. -/
lemma yields_ofEnvironment (h : env.Gives s) :
    Yields (ofEnvironment env)
      (s.config? Settings.meant? (s.apiKey.filter fun key => !key.isEmpty)) := by
  rw [ofEnvironment_eq h]
  exact (yields_consistencyOf h).bind fun level => yields_checked _

end Config

/-! ## A file -/

open Fields

variable {s : Settings} {d : Document}

/-- The level of a document is the one that its word spells. -/
lemma EndpointConfig.decoder_makes (h : d.HoldsEndpoint s) :
    decoder.Makes d ((s.level? Settings.spelled?).map fun level =>
      ⟨s.baseUrl, s.apiKey, s.timeoutMs.getD defaultTimeoutMs, level⟩) := by
  have hbase : (required "base_url" Decoder.text).Make d 0 (some s.baseUrl) :=
    .of_part h.baseUrl (Decoder.makes_of_eq rfl)
  have hkey : (Fields.optional "api_key" Decoder.text).Make d 1 (some s.apiKey) := by
    have hpart := h.apiKey
    cases hvalue : s.apiKey with
    | none => exact .of_absent (by rwa [hvalue] at hpart)
    | some key =>
      rw [hvalue] at hpart
      exact Make.of_optional hpart nofun (Decoder.makes_of_eq rfl)
  have htimeout : (absentAs "timeout_ms" defaultTimeoutMs Decoder.word64).Make d 2
      (some (s.timeoutMs.getD defaultTimeoutMs)) := by
    have hpart := h.timeoutMs
    cases hvalue : s.timeoutMs with
    | none => exact .of_absent (by rwa [hvalue] at hpart)
    | some n =>
      rw [hvalue] at hpart
      exact .of_part hpart (Decoder.makes_of_eq (Decoder.word64_whole n))
  have hlevel : (Fields.optional "consistency_level" Consistency.vocabulary.decoder).Make d 3
      (s.level? Settings.spelled?) := by
    have hpart := h.consistency
    cases hvalue : s.consistency with
    | none =>
      rw [hvalue] at hpart
      rw [Settings.level?, hvalue]
      exact .of_absent hpart
    | some word =>
      rw [hvalue] at hpart
      rw [Settings.level?, hvalue]
      refine Make.of_optional hpart nofun fun level => ?_
      show Consistency.vocabulary.known word = .ok level ↔ _
      rw [Vocabulary.known, Settings.spelled?]
      cases Consistency.vocabulary.find? word <;> simp
  have hrecord := (((hbase.map (f := EndpointConfig.mk)).seq hkey).seq htimeout).seq hlevel
  exact hrecord.record h.isRecord "EndpointConfig"

lemma BatchingConfig.decoder_makes {b : BatchingConfig} (h : d.HoldsSizes b) :
    decoder.Makes d (some b) := by
  have hbatch : (required "batch_size" Decoder.size).Make d 0 (some b.batchSize) :=
    .of_part h.batchSize (Decoder.makes_of_eq (Decoder.size_whole _))
  have hpool : (required "pool_size" Decoder.size).Make d 1 (some b.poolSize) :=
    .of_part h.poolSize (Decoder.makes_of_eq (Decoder.size_whole _))
  have hrecord := (hbatch.map (f := BatchingConfig.mk)).seq hpool
  exact hrecord.record h.isRecord "BatchingConfig"

lemma RetryPolicy.decoder_makes (h : d.HoldsRetry s) :
    decoder.Makes d (some ⟨.ofMillis s.baseIntervalMs.toNat, s.maxConnectionRetries,
      s.maxTimeoutRetries⟩) := by
  have hinterval : (required "base_interval_ms" Duration.decoder).Make d 0
      (some (.ofMillis s.baseIntervalMs.toNat)) :=
    .of_part h.baseInterval (Decoder.makes_of_eq (Duration.decoder_whole s.baseIntervalMs.toNat_lt))
  have hconnection : (required "max_connection_retries" Decoder.word32).Make d 1
      (some s.maxConnectionRetries) :=
    .of_part h.maxConnection (Decoder.makes_of_eq (Decoder.word32_whole _))
  have htime : (required "max_timeout_retries" Decoder.word32).Make d 2
      (some s.maxTimeoutRetries) :=
    .of_part h.maxTimeout (Decoder.makes_of_eq (Decoder.word32_whole _))
  have hrecord := ((hinterval.map (f := RetryPolicy.mk)).seq hconnection).seq htime
  exact hrecord.record h.isRecord "RetryPolicy"

namespace Config

lemma decoder_makes (h : d.Holds s) :
    decoder.Makes d ((s.level? Settings.spelled?).map (s.toConfig s.apiKey)) := by
  obtain ⟨e, hpart, hendpoint⟩ := h.endpoint
  have hendpoint : (required "endpoint" EndpointConfig.decoder).Make d 0 _ :=
    .of_part hpart (EndpointConfig.decoder_makes hendpoint)
  have hbatching : (absentAs "batching" {} BatchingConfig.decoder).Make d 1
      (some (s.sizes.getD {})) := by
    obtain ⟨b, hpart, hsizes⟩ := h.batching
    cases hvalue : s.sizes with
    | none =>
      rw [hvalue] at hsizes
      cases hsizes
      exact .of_absent hpart
    | some sizes =>
      rw [hvalue] at hsizes
      cases hsizes with
      | some hsizes => exact .of_part hpart (BatchingConfig.decoder_makes hsizes)
  obtain ⟨r, hpart, hretry⟩ := h.retry
  have hretry : (required "retry" RetryPolicy.decoder).Make d 2 _ :=
    .of_part hpart (RetryPolicy.decoder_makes hretry)
  have hrecord := ((hendpoint.map (f := Config.mk)).seq hbatching).seq hretry
  have hmakes := hrecord.record h.isRecord "BatchlineConfig"
  cases hlevel : s.level? Settings.spelled? with
  | none =>
    rw [hlevel] at hmakes
    exact hmakes
  | some level =>
    rw [hlevel] at hmakes
    exact hmakes

variable {t : FileTree} {path text : String}

/-- A file that holds the settings in a document. -/
structure HeldAt (t : FileTree) (path : String) (s : Settings) : Prop where
  isDocument : (FileTree.extension? path).getD "json" = "json"
  held : ∃ text d,
    t.find? path = some (.file text.toUTF8) ∧ Document.read? text = some d ∧ d.Holds s

lemma readText_toUTF8 (text : String) : readText (.file text.toUTF8) = .ok text := by
  have hvalid : String.fromUTF8? text.toUTF8 = some text := dif_pos text.isValidUTF8
  rw [readText, hvalid]

/-- A file gives the settings as they are spelled. -/
lemma yields_ofFile (h : HeldAt t path s) :
    Yields (ofFile t (some path)) (s.config? Settings.spelled? s.apiKey) := by
  obtain ⟨text, d, hfile, hread, hholds⟩ := h.held
  have htext : Yields (ofText (FileTree.extension? path) text)
      ((s.level? Settings.spelled?).map (s.toConfig s.apiKey)) := by
    rw [ofText, h.isDocument]
    refine yields_mapError (fun c => ?_) _
    rw [Decoder.decodeText_eq_ok_iff, ← decoder_makes hholds c]
    simp only [hread, Option.some.injEq, exists_eq_left']
  have hload : ofFile t (some path) = (ofText (FileTree.extension? path) text).bind checked := by
    rw [ofFile, ofPath, hfile]
    simp only [readText_toUTF8]
    rfl
  have hconfig : s.config? Settings.spelled? s.apiKey =
      ((s.level? Settings.spelled?).map (s.toConfig s.apiKey)).bind fun c =>
        (checked c).toOption := by
    rw [Settings.config?, Option.bind_map]
    rfl
  rw [hload, hconfig]
  exact htext.bind yields_checked

end Config

/-! ## Both sources -/

namespace Config

variable {env : Environment} {t : FileTree} {path : String} {x y : Except Error Config}
  {o o' : Option Config}

/-- Two sources that give the same: one valid configuration, or a fault of the settings each. -/
def SameOutcome (x y : Except Error Config) : Prop :=
  (∃ c, x = .ok c ∧ y = .ok c ∧ c.validate = .ok ()) ∨
    ∃ m m', x = .error (.config m) ∧ y = .error (.config m')

lemma Yields.eq_ok_iff {c : Config} (h : Yields x o) : x = .ok c ↔ o = some c := by
  cases h <;> simp

lemma sameOutcome_iff_of_yields (hx : Yields x o) (hy : Yields y o')
    (hvalid : ∀ c, o = some c → c.validate = .ok ()) : SameOutcome x y ↔ o = o' := by
  cases hx with
  | value c =>
    cases hy with
    | value c' =>
      have hc := hvalid c rfl
      simp only [SameOutcome, Except.ok.injEq, Option.some.injEq, exists_eq_left']
      constructor
      · rintro (⟨hsame, -⟩ | ⟨_, _, h, -⟩)
        · exact hsame.symm
        · cases h
      · rintro rfl
        exact .inl ⟨rfl, hc⟩
    | fault m' => simp [SameOutcome]
  | fault m => cases hy <;> simp [SameOutcome]

/-- The configuration without an empty key. -/
def dropEmptyKey (c : Config) : Config :=
  { c with endpoint.apiKey := c.endpoint.apiKey.filter fun key => !key.isEmpty }

/-- The settings of a file are those of the environment, but for an empty key. -/
lemma config?_of_spelled {c : Config} (h : s.config? Settings.spelled? s.apiKey = some c) :
    s.config? Settings.meant? (s.apiKey.filter fun key => !key.isEmpty) = some c.dropEmptyKey := by
  have hout : s.IsSpelledOut :=
    ((Settings.isSome_config?_spelled_iff s.apiKey).mp (Option.isSome_of_eq_some h)).2
  obtain ⟨hlimits, level, hlevel, rfl⟩ := Settings.config?_eq_some_iff.mp h
  rw [← Settings.level?_of_spelledOut hout] at hlevel
  exact Settings.config?_eq_some_iff.mpr ⟨hlimits, level, hlevel, rfl⟩

lemma filter_eq_self_iff {key : Option String} :
    (key.filter fun key => !key.isEmpty) = key ↔ key ≠ some "" := by
  cases key with
  | none => simp
  | some key => simp [Option.filter_eq_some_iff]

/-- The environment gives a configuration just when the settings are usable. -/
lemma exists_ofEnvironment_iff (hgives : env.Gives s) :
    (∃ c, ofEnvironment env = .ok c) ↔ s.IsUsable := by
  simp only [(yields_ofEnvironment hgives).eq_ok_iff, ← Option.isSome_iff_exists]
  exact Settings.isSome_config?_meant_iff _

/-- A file gives one just when, besides, the word for the level is spelled out. -/
lemma exists_ofFile_iff (hheld : HeldAt t path s) :
    (∃ c, ofFile t (some path) = .ok c) ↔ s.IsUsable ∧ s.IsSpelledOut := by
  simp only [(yields_ofFile hheld).eq_ok_iff, ← Option.isSome_iff_exists]
  exact Settings.isSome_config?_spelled_iff _

lemma sameOutcome_iff (hgives : env.Gives s) (hheld : HeldAt t path s) :
    SameOutcome (ofEnvironment env) (ofFile t (some path)) ↔
      (s.IsUsable → s.apiKey ≠ some "" ∧ s.IsSpelledOut) := by
  have husable := Settings.isSome_config?_meant_iff (s := s)
    (s.apiKey.filter fun key => !key.isEmpty)
  have hspelled := Settings.isSome_config?_spelled_iff (s := s) s.apiKey
  rw [sameOutcome_iff_of_yields (yields_ofEnvironment hgives) (yields_ofFile hheld) fun c =>
    Settings.validate_of_config?]
  constructor
  · intro hsame hs
    obtain ⟨c, hc⟩ := Option.isSome_iff_exists.mp (hsame ▸ husable.mpr hs)
    have hout := (hspelled.mp (Option.isSome_of_eq_some hc)).2
    have hdrop := config?_of_spelled hc
    rw [hsame, hc, Option.some.injEq] at hdrop
    obtain ⟨-, level, -, rfl⟩ := Settings.config?_eq_some_iff.mp hc
    exact ⟨filter_eq_self_iff.mp (congrArg (·.endpoint.apiKey) hdrop).symm, hout⟩
  · intro hagree
    by_cases hs : s.IsUsable
    · obtain ⟨hkey, hout⟩ := hagree hs
      rw [Settings.config?, Settings.config?, Settings.level?_of_spelledOut hout,
        filter_eq_self_iff.mpr hkey]
    · have hnone := Option.not_isSome_iff_eq_none.mp (mt husable.mp hs)
      have hnone' := Option.not_isSome_iff_eq_none.mp (mt hspelled.mp fun h => hs h.1)
      rw [hnone, hnone']

/-- **Environment and file.** The same settings give a configuration in the environment if they are
usable, and in a file if their level is spelled out besides; what the file gives, the environment
gives without an empty key. So the outcomes are the same but for usable settings with an empty key
or with another spelling of the level. -/
theorem sources_compared (hgives : env.Gives s) (hheld : HeldAt t path s) :
    ((∃ c, ofEnvironment env = .ok c) ↔ s.IsUsable) ∧
    ((∃ c, ofFile t (some path) = .ok c) ↔ s.IsUsable ∧ s.IsSpelledOut) ∧
    (∀ c, ofFile t (some path) = .ok c → ofEnvironment env = .ok c.dropEmptyKey) ∧
    (SameOutcome (ofEnvironment env) (ofFile t (some path)) ↔
      (s.IsUsable → s.apiKey ≠ some "" ∧ s.IsSpelledOut)) := by
  refine ⟨exists_ofEnvironment_iff hgives, exists_ofFile_iff hheld, ?_,
    sameOutcome_iff hgives hheld⟩
  intro c hc
  rw [(yields_ofFile hheld).eq_ok_iff] at hc
  rw [(yields_ofEnvironment hgives).eq_ok_iff]
  exact config?_of_spelled hc

/-- A file at a path. -/
lemma find?_file {path : String} (content : ByteArray) (hpath : path ≠ "")
    (hstart : path.toList.head? ≠ some '/') (hend : path.toList.getLast? ≠ some '/') :
    FileTree.find? ⟨[(Place.ofPath path, .file content)]⟩ path = some (.file content) := by
  rw [FileTree.find?, if_neg (not_or.mpr ⟨hpath, hstart⟩)]
  simp only [List.lookup_cons_self, if_neg hend]

/-- A file of the settings. -/
def filesOf (s : Settings) : FileTree where
  entries := [(Place.ofPath "batchline.json", .file s.toJson.print.toUTF8)]

lemma heldAt_filesOf (s : Settings) : HeldAt (filesOf s) "batchline.json" s where
  isDocument := by decide
  held := ⟨_, _, find?_file _ (by decide) (by decide) (by decide), s.read?_print,
    s.holds_toDocument⟩

/-- Settings with this key and this word for the level. -/
def localSettings (apiKey consistency : Option String) : Settings where
  baseUrl := "http://localhost:8080"
  apiKey := apiKey
  consistency := consistency
  baseIntervalMs := 400
  maxConnectionRetries := 2
  maxTimeoutRetries := 3

theorem sources_compared_local :
    SameOutcome (ofEnvironment (.present (localSettings (some "secret") (some "quorum")).texts))
      (ofFile (filesOf (localSettings (some "secret") (some "quorum")))
        (some "batchline.json")) := by
  have hsame := (sources_compared (Settings.gives _)
    (heldAt_filesOf (localSettings (some "secret") (some "quorum")))).2.2.2
  refine hsame.mpr fun _ => ⟨by decide, ?_⟩
  rintro word ⟨⟩
  decide

lemma isUsable_local {apiKey consistency : Option String} (h : ∀ word, consistency = some word →
    Text.foldCase (Text.trim word) ∈ Consistency.vocabulary.spellings) :
    (localSettings apiKey consistency).IsUsable where
  baseUrl_ne := by
    show Text.trim "http://localhost:8080" ≠ ""
    decide
  timeoutMs_ne := nofun
  sizes_ne := nofun
  isLevel := h

/-- The environment takes a level in capitals, which a file refuses, and drops an empty key, which
a file keeps. -/
theorem not_always_sameOutcome :
    (∃ c, ofEnvironment (.present (localSettings none (some "QUORUM")).texts) = .ok c) ∧
    ¬SameOutcome (ofEnvironment (.present (localSettings none (some "QUORUM")).texts))
      (ofFile (filesOf (localSettings none (some "QUORUM"))) (some "batchline.json")) ∧
    (∃ c, ofFile (filesOf (localSettings (some "") none)) (some "batchline.json") = .ok c) ∧
    ¬SameOutcome (ofEnvironment (.present (localSettings (some "") none).texts))
      (ofFile (filesOf (localSettings (some "") none)) (some "batchline.json")) ∧
    ¬∀ env t path s, env.Gives s → HeldAt t path s →
      SameOutcome (ofEnvironment env) (ofFile t (some path)) := by
  have hcapitals : (localSettings none (some "QUORUM")).IsUsable := by
    refine isUsable_local ?_
    rintro word ⟨⟩
    decide
  have hempty : (localSettings (some "") none).IsUsable := isUsable_local nofun
  have hrefused := mt (sameOutcome_iff (Settings.gives (localSettings none (some "QUORUM")))
    (heldAt_filesOf _)).mp fun hsame => absurd ((hsame hcapitals).2 "QUORUM" rfl) (by decide)
  refine ⟨(exists_ofEnvironment_iff (Settings.gives _)).mpr hcapitals, hrefused, ?_, ?_, ?_⟩
  · exact (exists_ofFile_iff (heldAt_filesOf _)).mpr ⟨hempty, nofun⟩
  · rw [sameOutcome_iff (Settings.gives _) (heldAt_filesOf _)]
    exact fun hsame => (hsame hempty).1 rfl
  · exact fun hsame => hrefused (hsame _ _ _ _ (Settings.gives _) (heldAt_filesOf _))

end Config

end BulkWrite
