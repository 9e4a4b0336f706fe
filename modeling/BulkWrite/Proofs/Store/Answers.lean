import BulkWrite.Proofs.Decode.Records
import BulkWrite.Store.Submission

/-!
# What an exchange comes to

A request comes to a value if it was answered with a status of success and a body that holds one
(`Exchange.Brings`), and to a fault if not (`Exchange.Raises`). There is nothing else
(`Store.answer_cases`), and the two exclude each other, so the statements about submissions need
speak of no more than these two.
-/

namespace BulkWrite

namespace Http

/-! ## Requests -/

lemma isSuccess_iff {status : UInt16} : isSuccess status ↔ status.toNat / 100 = 2 := by
  rw [isSuccess, Bool.and_eq_true, decide_eq_true_eq, decide_eq_true_eq, UInt16.le_iff_toNat_le,
    UInt16.lt_iff_toNat_lt]
  show 200 ≤ status.toNat ∧ status.toNat < 300 ↔ _
  omega

/-- A request goes to its address without the user. -/
lemma eq_withoutUser_of_destination {u address : Url} (h : destination u = .ok address) :
    address = u.withoutUser := by
  unfold destination at h
  split at h
  · cases h
  · split at h
    · exact (Except.ok.inj h).symm
    · cases h

/-- Requests to an address that can be reached are sent. -/
lemma Client.exists_request {u address : Url} (h : destination u = .ok address) (c : Client)
    (method : String) (fields : List (String × String)) (body : Option Json) :
    ∃ request, c.request method u fields body = .ok request := by
  unfold request
  rw [h]
  exact ⟨_, rfl⟩

/-- Requests to another address are not. -/
lemma Client.request_of_unreachable {u : Url} {failure : Failure}
    (h : destination u = .error failure) (c : Client) (method : String)
    (fields : List (String × String)) (body : Option Json) :
    c.request method u fields body = .error failure := by
  unfold request
  rw [h]
  rfl

/-! ## Exchanges -/

namespace Exchange

variable {β : Type}

/-- The request was carried out, and the body of the answer decodes to a value. -/
def Brings (d : Decoder β) (x : Exchange) (b : β) : Prop :=
  ∃ status body, x = .answered status body ∧ status.toNat / 100 = 2 ∧
    Decoder.decodeText d body = .ok b

/-- The request failed with a fault: of the transport, by its status, or by its body. -/
inductive Raises (d : Decoder β) : Exchange → Fault → Prop where
  | refused (causes : List String) (message : String) : Raises d (.refused causes) (.connect message)
  | overdue (causes : List String) (message : String) : Raises d (.overdue causes) (.timeout message)
  | closed (causes : List String) (message : String) : Raises d (.closed causes) (.protocol message)
  | cutShort (causes : List String) (message : String) : Raises d (.cutShort causes) (.decode message)
  | status {status : UInt16} {body : String} (h : status.toNat / 100 ≠ 2) :
    Raises d (.answered status body) (.status status (Fault.detail body))
  | body {status : UInt16} {body : String} (hstatus : status.toNat / 100 = 2)
    (hbody : ∀ b, Decoder.decodeText d body ≠ .ok b) (message : String) :
    Raises d (.answered status body) (.decode message)

lemma Brings.unique {d : Decoder β} {x : Exchange} {b b' : β} (h : x.Brings d b)
    (h' : x.Brings d b') : b = b' := by
  obtain ⟨status, body, rfl, -, hbody⟩ := h
  obtain ⟨status', body', heq, -, hbody'⟩ := h'
  obtain ⟨rfl, rfl⟩ := Exchange.answered.inj heq
  exact Except.ok.inj (hbody.symm.trans hbody')

/-- What raises a fault brings nothing. -/
lemma Raises.not_brings {d : Decoder β} {x : Exchange} {fault : Fault} (h : x.Raises d fault)
    (b : β) : ¬x.Brings d b := by
  rintro ⟨status, body, rfl, hsuccess, hbody⟩
  cases h with
  | status hstatus => exact hstatus hsuccess
  | body _ hnone => exact hnone b hbody

end Exchange

end Http

namespace Store

open Http (Exchange Request)

variable {β : Type} {d : Decoder β} {request : Request} {x : Exchange}

/-- An exchange comes to a value or to a fault. -/
lemma answer_cases (d : Decoder β) (request : Request) (x : Exchange) :
    (∃ b, answer d request x = .ok b ∧ x.Brings d b) ∨
      ∃ fault, answer d request x = .error fault ∧ x.Raises d fault := by
  cases x with
  | refused causes => exact .inr ⟨_, rfl, .refused causes _⟩
  | overdue causes => exact .inr ⟨_, rfl, .overdue causes _⟩
  | closed causes => exact .inr ⟨_, rfl, .closed causes _⟩
  | cutShort causes => exact .inr ⟨_, rfl, .cutShort causes _⟩
  | answered status body =>
    rw [answer, Exchange.body, Exchange.received]
    -- only an answer of success is decoded; any other one is a fault, whatever its body
    by_cases hsuccess : Http.isSuccess status
    · have hstatus := Http.isSuccess_iff.mp hsuccess
      simp only [if_pos hsuccess, Except.bind]
      cases hbody : Decoder.decodeText d body with
      | ok b =>
        refine .inl ⟨b, ?_, status, body, rfl, hstatus, hbody⟩
        rw [decodeBody, hbody]
        rfl
      | error cause =>
        refine .inr ⟨unexpectedBody cause, ?_, ?_⟩
        · rw [decodeBody, hbody]
          rfl
        · refine .body hstatus (fun b => ?_) _
          rw [hbody]
          nofun
    · have hstatus := mt Http.isSuccess_iff.mpr hsuccess
      simp only [if_neg hsuccess]
      exact .inr ⟨_, rfl, .status hstatus⟩

lemma answer_eq_ok_iff {b : β} : answer d request x = .ok b ↔ x.Brings d b := by
  rcases answer_cases d request x with ⟨b', hanswer, hbrings⟩ | ⟨fault, hanswer, hraises⟩
  · rw [hanswer]
    constructor
    · intro h
      rwa [← Except.ok.inj h]
    · intro h
      rw [hbrings.unique h]
  · rw [hanswer]
    exact ⟨nofun, fun h => absurd h (hraises.not_brings b)⟩

/-- What an exchange comes to that brings nothing is a fault. -/
lemma exists_answer_error (request : Request) (h : ∀ b, ¬x.Brings d b) :
    ∃ fault, answer d request x = .error fault ∧ x.Raises d fault := by
  rcases answer_cases d request x with ⟨b, -, hbrings⟩ | hfault
  · exact absurd hbrings (h b)
  · exact hfault

/-! ## A store on this host -/

/-- The address of all resources on this host. -/
def localUrl : Url where
  scheme := "http"
  hasAuthority := true
  host := some (.domain "localhost")
  path := .rooted objectsPath

/-- A store on this host. -/
def localStore : Store := ⟨⟨60000, []⟩, localUrl, localUrl, none⟩

end Store

end BulkWrite
