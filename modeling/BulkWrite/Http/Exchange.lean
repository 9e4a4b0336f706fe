import BulkWrite.Http.Failure

/-!
# Exchanges

What became of a request that was sent: an answer with a status and a body, or none. An answer
counts only as a whole; a body that ends early makes it unusable, whatever its status.

An exchange is what the HTTP library brings back for one request. Redirects are followed inside it:
the answer is the one at the end of them, and the requests that they make are not among those of the
library.
-/

namespace BulkWrite.Http

/-- What became of a request. Where there is no answer, the HTTP library words the causes, the
nearest first. -/
inductive Exchange where
  | refused (causes : List String := [])
  | overdue (causes : List String := [])
  | closed (causes : List String := [])
  /-- The body ended early. -/
  | cutShort (causes : List String := [])
  | answered (status : UInt16) (body : String)
deriving DecidableEq, Repr

def isSuccess (status : UInt16) : Bool :=
  200 ≤ status && status < 300

namespace Exchange

/-- The answer to a request to the given address, after redirects. -/
def received (url : Url) : Exchange → Except Failure (UInt16 × String)
  | .answered status body => .ok (status, body)
  | .refused causes => .error ⟨.connection false, some url, causes⟩
  | .overdue causes => .error ⟨.deadline, some url, causes⟩
  | .closed causes => .error ⟨.exchange, some url, causes⟩
  | .cutShort causes => .error ⟨.body, some url, causes⟩

/-- The body of the answer to a request, if its status is one of success. -/
def body (url : Url) (x : Exchange) : Except Fault String :=
  match x.received url with
  | .error failure => .error failure.toFault
  | .ok (status, body) =>
    if isSuccess status then .ok body else .error (Fault.status status body).bounded

end Exchange

end BulkWrite.Http
