import BulkWrite.Config
import BulkWrite.Dotenv.Basic
import BulkWrite.FileTree
import BulkWrite.Toml.Reader

/-!
# Loading the configuration

The settings come from variables of the environment or from a file in one of two formats. Whatever
the source, they are validated. `Config.load` asks the environment first, after an environment file
has filled it up, and the first file of a known name otherwise.
-/

namespace BulkWrite

/-! ## Numbers in variables -/

inductive NumberFault where
  | empty
  | invalidDigit
  | tooLarge
deriving DecidableEq, Repr

def NumberFault.describe : NumberFault → String
  | .empty => "cannot parse integer from empty string"
  | .invalidDigit => "invalid digit found in string"
  | .tooLarge => "number too large to fit in target type"

/-- The number that decimal digits form, if it has at most so many bits. The first digit that is
none, or makes the number too large, decides. -/
def boundedNumber (bits : Nat) : (n : Nat) → List Char → Except NumberFault Nat
  | n, [] => .ok n
  | n, c :: cs =>
    if c.isDigit then
      let n := n * 10 + (c.toNat - '0'.toNat)
      if n < Nat.pow 2 bits then boundedNumber bits n cs else .error .tooLarge
    else .error .invalidDigit

/-- A number of so many bits, perhaps behind a plus. -/
def parseNumber (bits : Nat) (s : String) : Except NumberFault Nat :=
  match s.toList with
  | [] => .error .empty
  | ['+'] | ['-'] => .error .invalidDigit
  | '+' :: cs => boundedNumber bits 0 cs
  | cs => boundedNumber bits 0 cs

namespace Config

/-! ## From the environment -/

def endpointVariable : String := "BATCHLINE_ENDPOINT_URL"

def apiKeyVariable : String := "BATCHLINE_API_KEY"

def timeoutVariable : String := "BATCHLINE_TIMEOUT_MS"

def consistencyVariable : String := "BATCHLINE_CONSISTENCY_LEVEL"

def batchSizeVariable : String := "BATCHLINE_BATCH_SIZE"

def poolSizeVariable : String := "BATCHLINE_POOL_SIZE"

def baseIntervalVariable : String := "BATCHLINE_RETRY_BASE_INTERVAL_MS"

def maxConnectionVariable : String := "BATCHLINE_RETRY_MAX_CONNECTION"

def maxTimeoutVariable : String := "BATCHLINE_RETRY_MAX_TIMEOUT"

/-- The text of a variable that must be set. -/
def requireText (env : Environment) (name : String) : Except Error String :=
  match env.get? name with
  | some value => .ok value
  | none => .error (.config s!"Missing required environment variable: {name}")

/-- The number of a variable that must be set. -/
def requireNumber (bits : Nat) (env : Environment) (name : String) : Except Error Nat := do
  let value ← requireText env name
  (parseNumber bits (Text.trim value)).mapError fun fault =>
    .config s!"Invalid value for {name}: {fault.describe}"

/-- The number of a variable, or the given one if it is not set. -/
def numberOr (default : Nat) (bits : Nat) (env : Environment) (name : String) : Except Error Nat :=
  match env.get? name with
  | some _ => requireNumber bits env name
  | none => .ok default

def consistencyOf (env : Environment) : Except Error (Option Consistency) :=
  match env.get? consistencyVariable with
  | some value => ((Consistency.vocabulary.parse? value).mapError .config).map some
  | none => .ok none

def checked (c : Config) : Except Error Config :=
  c.validate.map fun _ => c

/-- The settings of an environment. An empty key is no key. -/
def ofEnvironment (env : Environment) : Except Error Config := do
  let baseUrl ← requireText env endpointVariable
  let apiKey := (env.get? apiKeyVariable).filter fun key => !key.isEmpty
  let timeoutMs ← numberOr EndpointConfig.defaultTimeoutMs.toNat 64 env timeoutVariable
  let consistency ← consistencyOf env
  let batchSize ← numberOr BatchingConfig.defaultBatchSize.toNat 64 env batchSizeVariable
  let poolSize ← numberOr BatchingConfig.defaultPoolSize.toNat 64 env poolSizeVariable
  let baseInterval ← requireNumber 64 env baseIntervalVariable
  let maxConnection ← requireNumber 32 env maxConnectionVariable
  let maxTimeout ← requireNumber 32 env maxTimeoutVariable
  checked
    { endpoint := ⟨baseUrl, apiKey, .ofNat timeoutMs, consistency⟩
      batching := ⟨.ofNat batchSize, .ofNat poolSize⟩
      retry := ⟨.ofMillis baseInterval, .ofNat maxConnection, .ofNat maxTimeout⟩ }

/-! ## From a file -/

/-- Decodes a text of one format. A whole number outside the range of the format is a flaw that only
a decoder notices which fails anyway. -/
def ofToml (s : String) : Except Cause Config :=
  match Toml.read? s with
  | none => .error .flawed
  | some doc =>
    match decoder .toml doc with
    | .ok c => .ok c
    | .error cause => .error (if doc.hasWideNumber then .flawed else cause)

/-- The settings that a text holds, in the format of the extension of its file; without an extension
it is a document of the first format. -/
def ofText (extension : Option String) (s : String) : Except Error Config :=
  match extension.getD "json" with
  | "json" =>
    (Decoder.decodeText decoder s).mapError fun cause =>
      .config s!"Invalid JSON format: {cause.message Dialect.json.layout}"
  | "toml" =>
    (ofToml s).mapError fun cause =>
      .config s!"Invalid TOML format: {cause.message Dialect.toml.layout}"
  | other => .error (.config s!"Unsupported config format: {other}")

def noText : Error :=
  .config "Failed to read config file: stream did not contain valid UTF-8"

/-- The text of a file. -/
def readText (entry : FileEntry) : Except Error String :=
  match entry with
  | .directory => .error (.config "Failed to read config file: Is a directory (os error 21)")
  | .program => .error noText
  | .file content =>
    match String.fromUTF8? content with
    | some s => .ok s
    | none => .error noText

/-- The names of files that hold settings, the preferred first. -/
def fileNames : List String :=
  ["batchline.toml", "batchline.json", "config.toml", "config.json"]

/-- The paths on which settings are looked for: all names in the working directory, then in its
parent, and then beside the running program. -/
def probePaths (t : FileTree) : List String :=
  fileNames ++ fileNames.map (fun name => s!"../{name}")
    ++ (t.programDirectory?.elim [] fun dir => fileNames.map fun name => (dir.child name).path)

/-- The first of these paths at which there is anything. -/
def probe (t : FileTree) : Option String :=
  (probePaths t).find? fun path => (t.find? path).isSome

/-- The settings at a path. -/
def ofPath (t : FileTree) (path : String) : Except Error Config :=
  match t.find? path with
  | none => .error (.config s!"Config file not found: {path}")
  | some entry => do
    let s ← readText entry
    let c ← ofText (FileTree.extension? path) s
    checked c

/-- The settings of a file: at the given path, or at the first path that leads to one. -/
def ofFile (t : FileTree) : Option String → Except Error Config
  | some path => ofPath t path
  | none =>
    match probe t with
    | some path => ofPath t path
    | none => .error (.config "No config file found in any of the standard locations")

/-! ## From either -/

/-- The environment after the nearest environment file. -/
def fillUp (env : Environment) (t : FileTree) : Environment :=
  match t.nearest? ".env" with
  | some file => Dotenv.apply env file
  | none => env

/-- The settings of the environment, or those of a file if the environment gives none. -/
def load (env : Environment) (t : FileTree) : Except Error Config :=
  match ofEnvironment (fillUp env t) with
  | .ok c => .ok c
  | .error _ => ofFile t none

end Config

end BulkWrite
