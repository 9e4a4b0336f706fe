import BulkWrite.Proofs.Config.Sources

/-!
# When a file takes the place of the environment

An environment is complete if each variable that must be set has a text. It sets a configuration if
it is complete and, besides, each text is fit for its variable and the limits are kept
(`Environment.Sets`); this is just when a configuration comes of it
(`Config.ofEnvironment_eq_ok_iff`).

A file is only meant to take the place of an environment that is not complete
(`Config.FallsBackIfIncomplete`). It takes the place of each one that sets nothing, and a text that
is not fit is passed over. Main statement: `Config.load_by_completeness`.

Which files there are to take its place is said first: the environment file is looked for in every
directory above, and settings beside the running program too.
-/

namespace BulkWrite

/-! ## Files that are looked for -/

section

variable {t : FileTree} {name : String} {content : ByteArray} {p : Place}

namespace FileTree

lemma up_le_height (h : t.content? p = some content) : p.up ≤ t.height := by
  unfold content? at h
  split at h
  · rename_i content hentry
    obtain ⟨before, after, hsplit, -⟩ := List.lookup_eq_some_iff.mp hentry
    exact List.le_max?_getD_of_mem (List.mem_map.mpr ⟨(p, .file content), by simp [hsplit], rfl⟩)
  · cases h

/-- A file of a name is looked for from the working directory up, in all directories. -/
theorem nearest?_eq_some_iff : t.nearest? name = some content ↔
    ∃ up, t.content? ⟨up, [name]⟩ = some content ∧
      ∀ lower < up, t.content? ⟨lower, [name]⟩ = none := by
  rw [nearest?, List.findSome?_eq_some_iff, List.range_eq_range']
  constructor
  · rintro ⟨before, up, after, hsplit, hup, hbefore⟩
    obtain ⟨k, -, rfl, hrest⟩ := List.range'_eq_append_iff.mp hsplit
    obtain ⟨-, rfl⟩ : _ ∧ up = k := by
      simpa [List.head?_range'] using congrArg List.head? hrest
    exact ⟨up, hup, fun lower hlower => hbefore lower (by simpa using hlower)⟩
  · rintro ⟨up, hup, hlower⟩
    have hle : up ≤ t.height := up_le_height hup
    refine ⟨List.range' 0 up, up, List.range' (up + 1) (t.height - up), ?_, hup, ?_⟩
    · have hall : t.height + 1 = up + (t.height - up + 1) := by omega
      rw [← List.range'_succ, hall, ← List.range'_append_1, Nat.zero_add]
    · exact fun lower hmem => hlower lower (by simpa using hmem)

end FileTree

/-- Where neither the working directory nor its parent has settings, those beside the running
program count. -/
theorem Config.probe_of_program (hdir : t.programDirectory? = some p)
    (hnone : ∀ name ∈ fileNames, t.find? name = none ∧ t.find? s!"../{name}" = none) :
    probe t = (fileNames.map fun name => (p.child name).path).find? fun path =>
      (t.find? path).isSome := by
  have hhere : fileNames.find? (fun path => (t.find? path).isSome) = none :=
    List.find?_eq_none.mpr fun name hname => by simp [(hnone name hname).1]
  have habove : (fileNames.map fun name => s!"../{name}").find?
      (fun path => (t.find? path).isSome) = none := by
    rw [List.find?_eq_none, List.forall_mem_map]
    exact fun name hname => by simp [(hnone name hname).2]
  rw [probe, probePaths, hdir, List.find?_append, List.find?_append, hhere, habove]
  rfl

example : Config.probe ⟨[(⟨3, ["opt", "batchline"]⟩, .program),
    (⟨3, ["opt", "config.json"]⟩, .file .empty)]⟩ = some "../../../opt/config.json" := rfl

end

/-! ## Numbers in texts -/

/-- Between blanks, the text has the decimal digits of a number of so many bits, perhaps behind a
plus. -/
def IsNumeral (bits : Nat) (s : String) (n : Nat) : Prop :=
  ∃ cs, cs ≠ [] ∧ (∀ c ∈ cs, c.isDigit) ∧
    ((Text.trim s).toList = cs ∨ (Text.trim s).toList = '+' :: cs) ∧
    Json.ofDigits (cs.map Json.digitOf) = n ∧ n < Nat.pow 2 bits

section

variable {bits n m : Nat} {s : String} {cs : List Char}

/-- What was made of digits is the number that they form, with all digits before them. -/
lemma boundedNumber_eq_ok (hn : n < Nat.pow 2 bits) (h : boundedNumber bits n cs = .ok m) :
    (∀ c ∈ cs, c.isDigit) ∧ (cs.map Json.digitOf).foldl (fun n d => n * 10 + d) n = m ∧
      m < Nat.pow 2 bits := by
  induction cs generalizing n with
  | nil =>
    obtain rfl := Except.ok.inj h
    exact ⟨nofun, rfl, hn⟩
  | cons c cs ih =>
    rw [boundedNumber] at h
    split at h
    · rename_i hc
      dsimp only at h
      split at h
      · rename_i hfits
        obtain ⟨hcs, hform, hm⟩ := ih hfits h
        exact ⟨List.forall_mem_cons.mpr ⟨hc, hcs⟩, hform, hm⟩
      · cases h
    · cases h

lemma boundedNumber_eq_ok_iff : boundedNumber bits 0 cs = .ok n ↔
    (∀ c ∈ cs, c.isDigit) ∧ Json.ofDigits (cs.map Json.digitOf) = n ∧ n < Nat.pow 2 bits := by
  constructor
  · exact boundedNumber_eq_ok (Nat.pow_pos (by decide))
  · rintro ⟨hcs, rfl, hn⟩
    exact boundedNumber_of_lt hcs hn

/-- A text is parsed as the number of which it is a numeral. -/
lemma parseNumber_trim_eq_ok_iff :
    parseNumber bits (Text.trim s) = .ok n ↔ IsNumeral bits s n := by
  unfold parseNumber IsNumeral
  generalize (Text.trim s).toList = text
  have hsign {c : Char} (hc : c.isDigit = false) (cs : List Char) : ¬∀ d ∈ c :: cs, d.isDigit := by
    intro hdigits
    rw [hdigits c List.mem_cons_self] at hc
    cases hc
  -- nothing at all, a sign alone, digits behind a plus, and all else
  split
  · refine iff_of_false nofun ?_
    rintro ⟨cs, hne, -, rfl | h, -⟩
    · exact hne rfl
    · cases h
  · refine iff_of_false nofun ?_
    rintro ⟨cs, hne, hdigits, rfl | h, -⟩
    · exact hsign (by decide) [] hdigits
    · exact hne (List.cons.inj h).2.symm
  · refine iff_of_false nofun ?_
    rintro ⟨cs, -, hdigits, rfl | h, -⟩
    · exact hsign (by decide) [] hdigits
    · cases h
  · rename_i cs hcs
    rw [boundedNumber_eq_ok_iff]
    constructor
    · rintro ⟨hdigits, hform⟩
      exact ⟨cs, fun h => hcs (h ▸ rfl), hdigits, .inr rfl, hform⟩
    · rintro ⟨ds, -, hdigits, rfl | h, hform⟩
      · exact absurd hdigits (hsign (by decide) cs)
      · obtain ⟨-, rfl⟩ := List.cons.inj h
        exact ⟨hdigits, hform⟩
  · rename_i hempty hplus hminus hsigned
    rw [boundedNumber_eq_ok_iff]
    constructor
    · rintro ⟨hdigits, hform⟩
      exact ⟨text, hempty, hdigits, .inl rfl, hform⟩
    · rintro ⟨cs, -, hdigits, rfl | rfl, hform⟩
      · exact ⟨hdigits, hform⟩
      · exact absurd rfl (hsigned cs)

end

/-! ## What an environment sets -/

namespace Environment

open Config

/-- The variables that must be set. -/
def requiredVariables : List String :=
  [endpointVariable, baseIntervalVariable, maxConnectionVariable, maxTimeoutVariable]

/-- Each variable that must be set has a text. -/
def IsComplete (env : Environment) : Prop :=
  ∀ name ∈ requiredVariables, (env.get? name).isSome

/-- The variable stands for a number of so many bits: the one of its text, or the default if it has
no text. -/
def Counts (env : Environment) (name : String) (bits : Nat) (default : Option Nat) (n : Nat) :
    Prop :=
  match env.get? name with
  | some s => IsNumeral bits s n
  | none => default = some n

/-- Each variable has a text that is fit for this configuration, or its default stands there. An
empty key is none, and the level may be written as a person means it. -/
structure Sets (env : Environment) (c : Config) : Prop where
  baseUrl : env.get? endpointVariable = some c.endpoint.baseUrl
  apiKey : (env.get? apiKeyVariable).filter (fun key => !key.isEmpty) = c.endpoint.apiKey
  timeoutMs : env.Counts timeoutVariable 64 (some EndpointConfig.defaultTimeoutMs.toNat)
    c.endpoint.timeoutMs.toNat
  consistency :
    (env.get? consistencyVariable).map Settings.meant? = c.endpoint.consistency.map some
  batchSize : env.Counts batchSizeVariable 64 (some BatchingConfig.defaultBatchSize.toNat)
    c.batching.batchSize.toNat
  poolSize : env.Counts poolSizeVariable 64 (some BatchingConfig.defaultPoolSize.toNat)
    c.batching.poolSize.toNat
  baseInterval : ∃ n, env.Counts baseIntervalVariable 64 none n ∧
    Duration.ofMillis n = c.retry.baseInterval
  maxConnection : env.Counts maxConnectionVariable 32 none c.retry.maxConnectionRetries.toNat
  maxTimeout : env.Counts maxTimeoutVariable 32 none c.retry.maxTimeoutRetries.toNat
  baseUrl_ne : Text.trim c.endpoint.baseUrl ≠ ""
  timeoutMs_ne : c.endpoint.timeoutMs ≠ 0
  batchSize_ne : c.batching.batchSize ≠ 0
  poolSize_ne : c.batching.poolSize ≠ 0

end Environment

/-! ## What comes of an environment -/

namespace Config

variable {env : Environment} {t : FileTree} {name : String} {bits n : Nat} {c : Config}

lemma requireText_eq_ok_iff {s : String} :
    requireText env name = .ok s ↔ env.get? name = some s := by
  unfold requireText
  cases env.get? name <;> simp

lemma requireNumber_eq_ok_iff :
    requireNumber bits env name = .ok n ↔ env.Counts name bits none n := by
  unfold requireNumber Environment.Counts
  rw [show (bind : Except Error String → _) = Except.bind from rfl, Fields.bind_eq_ok_iff]
  simp only [requireText_eq_ok_iff, Fields.mapError_eq_ok_iff, parseNumber_trim_eq_ok_iff]
  cases env.get? name <;> simp

lemma numberOr_eq_ok_iff {default : Nat} :
    numberOr default bits env name = .ok n ↔ env.Counts name bits (some default) n := by
  unfold numberOr
  cases hvalue : env.get? name with
  | none => simp [Environment.Counts, hvalue]
  | some s =>
    simp only [requireNumber_eq_ok_iff]
    simp [Environment.Counts, hvalue]

lemma consistencyOf_eq_ok_iff {level : Option Consistency} : consistencyOf env = .ok level ↔
    (env.get? consistencyVariable).map Settings.meant? = level.map some := by
  unfold consistencyOf
  cases env.get? consistencyVariable with
  | none => cases level <;> simp
  | some word =>
    simp only [Vocabulary.parse?, Settings.meant?, Option.map_some]
    cases Consistency.vocabulary.find? (Text.foldCase (Text.trim word)) <;> cases level <;>
      simp [Except.mapError, Except.map]

lemma checked_eq_ok_iff {c' : Config} : checked c = .ok c' ↔ c.validate = .ok () ∧ c = c' := by
  unfold checked
  cases c.validate <;> simp [Except.map]

lemma validate_eq_ok_iff : c.validate = .ok () ↔
    Text.trim c.endpoint.baseUrl ≠ "" ∧ c.endpoint.timeoutMs ≠ 0 ∧ c.batching.batchSize ≠ 0 ∧
      c.batching.poolSize ≠ 0 := by
  have hempty : (Text.trim c.endpoint.baseUrl).isEmpty ↔ Text.trim c.endpoint.baseUrl = "" :=
    String.isEmpty_iff
  unfold validate
  simp only [hempty]
  split
  · simp [*]
  · split
    · simp [*]
    · rw [Fields.mapError_eq_ok_iff, BatchingConfig.validate_eq_ok_iff]
      simp [*]

/-- A variable stands for a number of so many bits. -/
lemma lt_of_counts {default : Option Nat} (h : env.Counts name bits default n)
    (hdefault : ∀ d, default = some d → d < Nat.pow 2 bits) : n < Nat.pow 2 bits := by
  unfold Environment.Counts at h
  split at h
  · obtain ⟨cs, -, -, -, -, hn⟩ := h
    exact hn
  · exact hdefault n h

lemma counts_toNat_ofNat_64 {default : Option Nat} (h : env.Counts name 64 default n)
    (hdefault : ∀ d, default = some d → d < UInt64.size) :
    env.Counts name 64 default (UInt64.ofNat n).toNat := by
  rwa [UInt64.toNat_ofNat_of_lt' (lt_of_counts h hdefault)]

lemma counts_toNat_ofNat_32 (h : env.Counts name 32 none n) :
    env.Counts name 32 none (UInt32.ofNat n).toNat := by
  rwa [UInt32.toNat_ofNat_of_lt' (lt_of_counts h nofun)]

/-- A configuration comes of an environment just when the environment sets it. -/
lemma ofEnvironment_eq_ok_iff : ofEnvironment env = .ok c ↔ env.Sets c := by
  unfold ofEnvironment
  simp only [bind, Fields.bind_eq_ok_iff, requireText_eq_ok_iff, numberOr_eq_ok_iff,
    consistencyOf_eq_ok_iff, requireNumber_eq_ok_iff, checked_eq_ok_iff, validate_eq_ok_iff]
  constructor
  · rintro ⟨baseUrl, hbaseUrl, timeoutMs, htimeout, level, hlevel, batchSize, hbatch, poolSize,
      hpool, interval, hinterval, maxConnection, hconnection, maxTimeout, htime,
      ⟨hurl, hdeadline, hbatchNe, hpoolNe⟩, rfl⟩
    -- a number of so many bits is the one that the word of the configuration holds
    have hdefault (n : UInt64) (d : Nat) (h : some n.toNat = some d) : d < UInt64.size :=
      Option.some.inj h ▸ n.toNat_lt
    constructor
    case baseUrl => exact hbaseUrl
    case apiKey => rfl
    case timeoutMs => exact counts_toNat_ofNat_64 htimeout (hdefault _)
    case consistency => exact hlevel
    case batchSize => exact counts_toNat_ofNat_64 hbatch (hdefault _)
    case poolSize => exact counts_toNat_ofNat_64 hpool (hdefault _)
    case baseInterval => exact ⟨interval, hinterval, rfl⟩
    case maxConnection => exact counts_toNat_ofNat_32 hconnection
    case maxTimeout => exact counts_toNat_ofNat_32 htime
    case baseUrl_ne => exact hurl
    case timeoutMs_ne => exact hdeadline
    case batchSize_ne => exact hbatchNe
    case poolSize_ne => exact hpoolNe
  · intro h
    obtain ⟨⟨baseUrl, apiKey, timeoutMs, level⟩, ⟨batchSize, poolSize⟩,
      ⟨baseInterval, maxConnection, maxTimeout⟩⟩ := c
    obtain ⟨interval, hinterval, rfl⟩ := h.baseInterval
    refine ⟨_, h.baseUrl, _, h.timeoutMs, _, h.consistency, _, h.batchSize, _, h.poolSize, _,
      hinterval, _, h.maxConnection, _, h.maxTimeout, ?_⟩
    simp only [UInt64.ofNat_toNat, UInt32.ofNat_toNat, h.apiKey]
    exact ⟨⟨h.baseUrl_ne, h.timeoutMs_ne, h.batchSize_ne, h.poolSize_ne⟩, trivial⟩

/-- An environment that sets a configuration is complete. -/
lemma isComplete_of_sets (h : env.Sets c) : env.IsComplete := by
  have hcounts {name : String} {bits n : Nat} (h : env.Counts name bits none n) :
      (env.get? name).isSome := by
    unfold Environment.Counts at h
    split at h
    · rename_i hvalue
      rw [hvalue]
      rfl
    · cases h
  obtain ⟨interval, hinterval, -⟩ := h.baseInterval
  unfold Environment.IsComplete Environment.requiredVariables
  simp only [List.forall_mem_cons, List.not_mem_nil, false_implies, implies_true, and_true]
  exact ⟨h.baseUrl ▸ rfl, hcounts hinterval, hcounts h.maxConnection, hcounts h.maxTimeout⟩

/-! ## Faults of an environment -/

/-- What fails does so with a fault of the settings. -/
def OnlyConfigFaults {α : Type} (x : Except Error α) : Prop :=
  ∃ o, Yields x o

lemma OnlyConfigFaults.bind {α β : Type} {x : Except Error α} {f : α → Except Error β}
    (hx : OnlyConfigFaults x) (hf : ∀ a, OnlyConfigFaults (f a)) : OnlyConfigFaults (x.bind f) := by
  choose g hg using hf
  obtain ⟨o, ho⟩ := hx
  exact ⟨o.bind g, ho.bind hg⟩

lemma OnlyConfigFaults.exists_error {α : Type} {x : Except Error α} (hx : OnlyConfigFaults x)
    (hfails : ¬∃ a, x = .ok a) : ∃ m, x = .error (.config m) := by
  obtain ⟨o, hx⟩ := hx
  cases hx with
  | value a => exact absurd ⟨a, rfl⟩ hfails
  | fault m => exact ⟨m, rfl⟩

lemma onlyConfigFaults_mapError {ε α : Type} (x : Except ε α) (message : ε → String) :
    OnlyConfigFaults (x.mapError fun e => .config (message e)) := by
  cases x with
  | ok a => exact ⟨some a, .value a⟩
  | error e => exact ⟨none, .fault (message e)⟩

lemma onlyConfigFaults_requireText (env : Environment) (name : String) :
    OnlyConfigFaults (requireText env name) := by
  unfold requireText
  cases env.get? name with
  | some s => exact ⟨some s, .value s⟩
  | none => exact ⟨none, .fault _⟩

lemma onlyConfigFaults_requireNumber (env : Environment) (name : String) (bits : Nat) :
    OnlyConfigFaults (requireNumber bits env name) :=
  (onlyConfigFaults_requireText env name).bind fun _ => onlyConfigFaults_mapError _ _

lemma onlyConfigFaults_numberOr (env : Environment) (name : String) (bits default : Nat) :
    OnlyConfigFaults (numberOr default bits env name) := by
  unfold numberOr
  cases env.get? name with
  | some s => exact onlyConfigFaults_requireNumber env name bits
  | none => exact ⟨some default, .value default⟩

lemma onlyConfigFaults_consistencyOf (env : Environment) :
    OnlyConfigFaults (consistencyOf env) := by
  unfold consistencyOf
  cases env.get? consistencyVariable with
  | some word =>
    simp only
    cases Consistency.vocabulary.parse? word with
    | ok level => exact ⟨some (some level), .value (some level)⟩
    | error m => exact ⟨none, .fault m⟩
  | none => exact ⟨some none, .value none⟩

lemma onlyConfigFaults_ofEnvironment (env : Environment) : OnlyConfigFaults (ofEnvironment env) := by
  have hnumber := onlyConfigFaults_requireNumber env
  have hnumberOr := onlyConfigFaults_numberOr env
  unfold ofEnvironment
  dsimp only [bind]
  refine (onlyConfigFaults_requireText env endpointVariable).bind fun _ => ?_
  refine (hnumberOr timeoutVariable 64 _).bind fun _ => ?_
  refine (onlyConfigFaults_consistencyOf env).bind fun _ => ?_
  refine (hnumberOr batchSizeVariable 64 _).bind fun _ => ?_
  refine (hnumberOr poolSizeVariable 64 _).bind fun _ => ?_
  refine (hnumber baseIntervalVariable 64).bind fun _ => ?_
  refine (hnumber maxConnectionVariable 32).bind fun _ => ?_
  refine (hnumber maxTimeoutVariable 32).bind fun _ => ?_
  exact ⟨_, yields_checked _⟩

/-! ## Which source counts -/

lemma load_of_ok (h : ofEnvironment (fillUp env t) = .ok c) : load env t = .ok c := by
  unfold load
  rw [h]

lemma load_of_error {e : Error} (h : ofEnvironment (fillUp env t) = .error e) :
    load env t = ofFile t none := by
  unfold load
  rw [h]

/-- An environment that sets nothing has a fault, and a file takes its place. -/
lemma load_of_not_sets (h : ¬∃ c, (fillUp env t).Sets c) :
    (∃ m, ofEnvironment (fillUp env t) = .error (.config m)) ∧ load env t = ofFile t none := by
  simp only [← ofEnvironment_eq_ok_iff] at h
  obtain ⟨m, hm⟩ := (onlyConfigFaults_ofEnvironment (fillUp env t)).exists_error h
  exact ⟨⟨m, hm⟩, load_of_error hm⟩

/-- What is promised: a file takes the place of the environment just if that is not complete, after
it was filled up. -/
structure FallsBackIfIncomplete (env : Environment) (t : FileTree) : Prop where
  complete : (fillUp env t).IsComplete → load env t = ofEnvironment (fillUp env t)
  incomplete : ¬(fillUp env t).IsComplete → load env t = ofFile t none

/-- **Environment or file.** What an environment sets, after it was filled up, is loaded. If it sets
nothing there is a fault of the settings, and a file takes its place, whether it is complete or not.
So what is promised holds just if the environment sets something once it is complete, or the file
comes to the same fault. -/
theorem load_by_completeness (env : Environment) (t : FileTree) :
    (¬(fillUp env t).IsComplete → load env t = ofFile t none) ∧
    (∀ c, (fillUp env t).Sets c →
      (fillUp env t).IsComplete ∧ ofEnvironment (fillUp env t) = .ok c ∧ load env t = .ok c) ∧
    ((¬∃ c, (fillUp env t).Sets c) →
      (∃ m, ofEnvironment (fillUp env t) = .error (.config m)) ∧ load env t = ofFile t none) ∧
    (FallsBackIfIncomplete env t ↔ ((fillUp env t).IsComplete →
      (∃ c, (fillUp env t).Sets c) ∨ ofFile t none = ofEnvironment (fillUp env t))) := by
  -- an environment that is not complete sets nothing, so its fault need not be known
  have hincomplete : ¬(fillUp env t).IsComplete → load env t = ofFile t none := by
    intro hmissing
    exact (load_of_not_sets fun ⟨_, hsets⟩ => hmissing (isComplete_of_sets hsets)).2
  have hsets : ∀ c, (fillUp env t).Sets c →
      ofEnvironment (fillUp env t) = .ok c ∧ load env t = .ok c := by
    intro c hsets
    have hok := ofEnvironment_eq_ok_iff.mpr hsets
    exact ⟨hok, load_of_ok hok⟩
  refine ⟨hincomplete, fun c hc => ⟨isComplete_of_sets hc, hsets c hc⟩, load_of_not_sets, ?_⟩
  constructor
  · intro hfalls hcomplete
    by_cases hc : ∃ c, (fillUp env t).Sets c
    · exact .inl hc
    · right
      rw [← hfalls.complete hcomplete]
      exact (load_of_not_sets hc).2.symm
  · intro hcases
    refine ⟨fun hcomplete => ?_, hincomplete⟩
    rcases hcases hcomplete with ⟨c, hc⟩ | hsame
    · obtain ⟨hok, hload⟩ := hsets c hc
      rw [hok, hload]
    · by_cases hc : ∃ c, (fillUp env t).Sets c
      · obtain ⟨c, hc⟩ := hc
        obtain ⟨hok, hload⟩ := hsets c hc
        rw [hok, hload]
      · rw [← hsame]
        exact (load_of_not_sets hc).2

/-! A file of settings, next to environments of each kind. -/

lemma fillUp_filesOf (env : Environment) (s : Settings) : fillUp env (filesOf s) = env :=
  rfl

lemma ofFile_filesOf (s : Settings) :
    ofFile (filesOf s) none = ofFile (filesOf s) (some "batchline.json") := by
  have hprobe : probe (filesOf s) = some "batchline.json" := rfl
  simp only [ofFile, hprobe]

/-- Without variables the file counts, and else what the variables set. -/
theorem load_by_completeness_local :
    load {} (filesOf (localSettings (some "key") none)) =
      ofFile (filesOf (localSettings (some "key") none)) none ∧
    ∃ c, Environment.Sets (.present (localSettings none none).texts) c ∧
      load (.present (localSettings none none).texts) (filesOf (localSettings (some "key") none)) =
        .ok c := by
  have hmissing : ¬Environment.IsComplete {} := by
    intro hcomplete
    cases hcomplete endpointVariable (.head _)
  have husable : (localSettings none none).IsUsable := isUsable_local nofun
  obtain ⟨c, hc⟩ := (exists_ofEnvironment_iff (Settings.gives _)).mpr husable
  have hsets := ofEnvironment_eq_ok_iff.mp hc
  refine ⟨(load_by_completeness _ _).1 ?_, c, hsets, ((load_by_completeness _ _).2.1 c ?_).2.2⟩
  · rw [fillUp_filesOf]
    exact hmissing
  · rw [fillUp_filesOf]
    exact hsets

/-- A complete environment with a deadline that is no number. -/
def withUnits : Environment where
  assignments := [(endpointVariable, some "http://localhost:8080"), (timeoutVariable, some "30s"),
    (baseIntervalVariable, some "400"), (maxConnectionVariable, some "2"),
    (maxTimeoutVariable, some "3")]

/-- The deadline is a fault, yet the file is loaded. -/
theorem not_always_reported :
    withUnits.IsComplete ∧
    ofEnvironment withUnits =
      .error (.config "Invalid value for BATCHLINE_TIMEOUT_MS: invalid digit found in string") ∧
    (∃ c, load withUnits (filesOf (localSettings none none)) = .ok c) ∧
    ¬∀ env t, FallsBackIfIncomplete env t := by
  have hcomplete : withUnits.IsComplete := by
    unfold Environment.IsComplete
    decide
  have hfault : ofEnvironment withUnits =
      .error (.config "Invalid value for BATCHLINE_TIMEOUT_MS: invalid digit found in string") := by
    have hdeadline : withUnits.get? timeoutVariable = some "30s" := rfl
    have hdigit : parseNumber 64 (Text.trim "30s") = .error .invalidDigit := by decide
    simp only [ofEnvironment, numberOr, hdeadline, requireNumber, requireText, hdigit, bind,
      Except.bind, Except.mapError]
    decide
  have hloads : load withUnits (filesOf (localSettings none none)) =
      ofFile (filesOf (localSettings none none)) (some "batchline.json") := by
    rw [← ofFile_filesOf]
    apply load_of_error
    rw [fillUp_filesOf]
    exact hfault
  have hlevel : (localSettings none none).IsSpelledOut := fun word hword =>
    absurd hword (Option.some_ne_none word).symm
  obtain ⟨c, hc⟩ := (exists_ofFile_iff (heldAt_filesOf (localSettings none none))).mpr
    ⟨isUsable_local (by simp), hlevel⟩
  have hloaded := hloads.trans hc
  refine ⟨hcomplete, hfault, ⟨c, hloaded⟩, fun hall => ?_⟩
  have hreported := (hall withUnits (filesOf (localSettings none none))).complete hcomplete
  rw [fillUp_filesOf, hloaded, hfault] at hreported
  cases hreported

end Config

end BulkWrite
