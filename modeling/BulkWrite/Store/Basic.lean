import BulkWrite.Config
import BulkWrite.Http.Client

/-!
# Stores

A store is reached over HTTP below its base address. It takes objects and filtered deletes at one
resource and references at another.
-/

namespace BulkWrite

structure Store where
  client : Http.Client
  objectsUrl : Url
  referencesUrl : Url
  consistency : Option Consistency := none

namespace Store

def objectsPath : List String := ["v1", "batch", "objects"]

def referencesPath : List String := ["v1", "batch", "references"]

def badAddress (flaw : Url.Flaw) : Error :=
  .config s!"invalid endpoint URL: {flaw.message}"

/-- The base address in a text, as a folder. -/
def baseAddress (s : String) : Except Error Url :=
  let trimmed := Text.trim s
  if trimmed.isEmpty then .error (.config "endpoint base URL is empty")
  else
    match Url.parse trimmed with
    | .ok u => .ok { u with path := u.path.asFolder }
    | .error flaw => .error (badAddress flaw)

def ofBase (client : Http.Client) (base : String) (consistency : Option Consistency) :
    Except Error Store := do
  let base ← baseAddress base
  let objectsUrl ← (base.below objectsPath).mapError badAddress
  let referencesUrl ← (base.below referencesPath).mapError badAddress
  return { client, objectsUrl, referencesUrl, consistency }

/-- The store of an endpoint; an empty key is none. -/
def ofEndpoint (e : EndpointConfig) : Except Error Store := do
  let token := e.apiKey.filter (!·.isEmpty)
  let client ← ({ timeoutMs := e.timeoutMs, token } : Http.ClientConfig).build
  ofBase client e.baseUrl e.consistency

/-- The fields in the query of a request: the level of consistency, and the tenant. -/
def queryFields (s : Store) (tenant : Option String) : List (String × String) :=
  (s.consistency.map fun level => ("consistency_level", level.queryValue)).toList
    ++ (tenant.map ("tenant", ·)).toList

end Store

end BulkWrite
