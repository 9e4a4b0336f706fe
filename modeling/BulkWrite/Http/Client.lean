import BulkWrite.Http.Base64
import BulkWrite.Http.Exchange
import BulkWrite.Json.Value
import BulkWrite.Url.Percent
import BulkWrite.Url.Reader

/-!
# Clients

A client makes requests: it adds its headers to them and refuses addresses that it cannot reach. It
sends every request once. A user in the address of a request is taken out of it and takes the place
of the client's own credentials.
-/

namespace BulkWrite.Http

/-! ## Headers -/

/-- Names and values, each name once and in small letters. -/
abbrev Headers := List (String × String)

/-- The headers with one more, or with another value for it. -/
def Headers.insert (name value : String) (headers : Headers) : Headers :=
  headers.filter (·.1 != name) ++ [(name, value)]

/-- The headers with more, or with other values for them. -/
def Headers.insertAll (more headers : Headers) : Headers :=
  more.foldl (fun all (name, value) => Headers.insert name value all) headers

/-- Whether a text can be the value of a header: it holds no control but the tab. -/
def isHeaderText (s : String) : Bool :=
  s.toList.all fun c => c == '\t' || (0x20 ≤ c.toNat && c.toNat != 0x7F)

def authorization : String := "authorization"

/-! ## Clients -/

def defaultUserAgent : String := "batchline/0.1.0"

structure ClientConfig where
  /-- The deadline of a request, its answer included, in milliseconds. -/
  timeoutMs : UInt64 := 60000
  userAgent : Option String := some defaultUserAgent
  /-- The token to show with every request. -/
  token : Option String := none
  headers : Headers := []

structure Client where
  timeoutMs : UInt64
  /-- What is sent with every request. -/
  headers : Headers

namespace ClientConfig

def bearer (token : String) : String :=
  s!"Bearer {token}"

/-- The client with these settings. Neither token nor name may hold what a header cannot. -/
def build (c : ClientConfig) : Except Error Client :=
  if c.token.any fun token => !isHeaderText (bearer token) then
    .error (.config "API key contains invalid header characters")
  else if c.userAgent.any fun agent => !isHeaderText agent then
    .error (Failure.toError { stage := .setup, causes := ["failed to parse header value"] })
  else
    let agent := (c.userAgent.map ("user-agent", ·)).toList
    let credentials := (c.token.map fun token => (authorization, bearer token)).toList
    .ok ⟨c.timeoutMs, Headers.insertAll (agent ++ c.headers ++ credentials) [("accept", "*/*")]⟩

end ClientConfig

/-! ## Requests -/

structure Request where
  method : String
  url : Url
  headers : Headers
  body : Option Json := none

/-- Whether requests of this scheme can be sent. -/
def isReachable (scheme : String) : Bool :=
  scheme == "http" || scheme == "https"

/-- The credentials of the user in an address. -/
def userCredentials? (u : Url) : Option String := do
  let name ← Percent.decodeText? u.username.toList
  let password := u.password.bind fun p => Percent.decodeText? p.toList
  guard (!name.isEmpty || password.isSome)
  let plain := name ++ ":" ++ password.getD ""
  return "Basic " ++ String.ofList (Base64.encode plain.toUTF8.toList)

/-- The address that a request to this address goes to: without its user, and only if it names a
host that can be reached. -/
def destination (u : Url) : Except Failure Url :=
  let refuse (u : Url) : Failure := ⟨.setup, some u, ["URL scheme is not allowed"]⟩
  if u.host.isNone then .error (refuse u)
  else if isReachable u.scheme then .ok u.withoutUser
  else .error (refuse u.withoutUser)

def address (s : String) : Except Failure Url :=
  (Url.parse s).mapError fun flaw => { stage := .setup, causes := [flaw.message] }

namespace Client

/-- A request of a client, with a form as its query and a document as its body. -/
def request (c : Client) (method : String) (u : Url) (fields : List (String × String) := [])
    (body : Option Json := none) : Except Failure Request := do
  let url ← destination u
  let content := if body.isSome then [("content-type", "application/json")] else []
  let user := ((userCredentials? u).map (authorization, ·)).toList
  let query := if fields.isEmpty then url.query else some (String.ofList (Percent.form fields))
  return ⟨method, { url with query }, Headers.insertAll (content ++ user) c.headers, body⟩

end Client

end BulkWrite.Http
