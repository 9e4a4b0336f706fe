import BulkWrite.Proofs.Json.Reading
import BulkWrite.Proofs.Retries
import BulkWrite.Proofs.Store.Answers

/-!
# Outcomes of objects and references

All objects or references of a batch go to the store in one request, and it answers with one entry
for each. What an entry may look like is said here of documents (`Entry.IsEntry`), part by part and
without a decoder: its result, and the status and the errors of that, may each be missing or null.
The entries are then read off a body in just one way (`Entry.listed_iff`), and the outcome of each
item is what the entry at its place says (`Store.submit_correlates`).
-/

namespace BulkWrite

/-! ## Entries as documents -/

namespace Entry

open Fields

variable {d : Document} {e : Entry}

/-- An error with a message, or with an empty one if it has none. -/
def IsError (d : Document) (e : ItemError) : Prop :=
  d.IsRecord 1 ∧
    ((d.Part 0 "message" none ∧ e.message = "") ∨ d.Part 0 "message" (some (.text e.message)))

/-- A list of errors, of which there are none if it is missing. -/
def IsErrorList (d : Document) (errors : List ItemError) : Prop :=
  d.IsRecord 1 ∧
    ((d.Part 0 "error" none ∧ errors = []) ∨
      ∃ items, d.Part 0 "error" (some (.sequence items)) ∧ List.Forall₂ IsError items errors)

/-- A result with the status and the errors of an entry. -/
def IsResult (d : Document) (e : Entry) : Prop :=
  d.IsRecord 2 ∧
    ((d.Lacks 0 "status" ∧ e.status = none) ∨
      ∃ status, d.Part 0 "status" (some (.text status)) ∧ e.status = some status) ∧
    ((d.Lacks 1 "errors" ∧ e.errors = []) ∨
      ∃ part, d.Part 1 "errors" (some part) ∧ IsErrorList part e.errors)

/-- An entry, which says nothing if it has no result. -/
def IsEntry (d : Document) (e : Entry) : Prop :=
  d.IsRecord 1 ∧
    ((d.Lacks 0 "result" ∧ e = {}) ∨ ∃ part, d.Part 0 "result" (some part) ∧ IsResult part e)

/-- The body of an answer lists these entries. -/
def Listed (body : String) (entries : List Entry) : Prop :=
  ∃ items, Document.read? body = some (.sequence items) ∧ List.Forall₂ IsEntry items entries

lemma error_eq_ok_iff {e : ItemError} : error .json d = .ok e ↔ IsError d e := by
  unfold error IsError
  rw [record_eq_ok_iff, read_map_iff, count_map]
  simp only [read_absentAs_iff, Decoder.text_eq_ok_iff]
  refine and_congr_right fun _ => ⟨?_, ?_⟩
  · rintro ⟨message, ⟨hnone, rfl⟩ | ⟨part, hpart, rfl⟩, rfl⟩
    · exact .inl ⟨hnone, rfl⟩
    · exact .inr hpart
  · rintro (⟨hnone, hmessage⟩ | hpart)
    · exact ⟨"", .inl ⟨hnone, rfl⟩, by rw [← hmessage]⟩
    · exact ⟨e.message, .inr ⟨_, hpart, rfl⟩, rfl⟩

lemma errorList_eq_ok_iff {errors : List ItemError} :
    errorList .json d = .ok errors ↔ IsErrorList d errors := by
  unfold errorList IsErrorList
  rw [record_eq_ok_iff]
  show _ ∧ (absentAs "error" [] (Decoder.list error)).read .json 0 _ = .ok errors ↔ _
  rw [read_absentAs_iff]
  simp only [Decoder.list_eq_ok_iff fun _ _ => error_eq_ok_iff]
  refine and_congr_right fun _ => or_congr (and_congr_right fun _ => eq_comm) ⟨?_, ?_⟩
  · rintro ⟨part, hpart, items, rfl, hitems⟩
    exact ⟨items, hpart, hitems⟩
  · rintro ⟨items, hpart, hitems⟩
    exact ⟨_, hpart, items, rfl, hitems⟩

/-- A result is read field by field. -/
lemma result_eq_ok_iff : result .json d = .ok e ↔ IsResult d e := by
  obtain ⟨status, errors⟩ := e
  unfold result IsResult
  rw [record_eq_ok_iff, read_seq_iff]
  simp only [read_map_iff, read_optional_iff, Decoder.text_eq_ok_iff, errorList_eq_ok_iff]
  refine and_congr_right fun _ => ⟨?_, ?_⟩
  · rintro ⟨_, listed, ⟨status', hstatus, rfl⟩, herrors, hentry⟩
    obtain ⟨rfl, rfl⟩ := Entry.mk.inj hentry
    refine ⟨?_, ?_⟩
    · rcases hstatus with ⟨hlacks, rfl⟩ | ⟨part, text, hpart, -, rfl, rfl⟩
      · exact .inl ⟨hlacks, rfl⟩
      · exact .inr ⟨text, hpart, rfl⟩
    · rcases herrors with ⟨hlacks, rfl⟩ | ⟨part, list, hpart, -, hlist, rfl⟩
      · exact .inl ⟨hlacks, rfl⟩
      · exact .inr ⟨part, hpart, hlist⟩
  · rintro ⟨hstatus, herrors⟩
    have hstatus : (d.Lacks 0 "status" ∧ status = none) ∨ ∃ part text,
        d.Part 0 "status" (some part) ∧ part ≠ .null ∧ part = .text text ∧ status = some text := by
      rcases hstatus with hlacks | ⟨text, hpart, htext⟩
      · exact .inl hlacks
      · exact .inr ⟨_, text, hpart, nofun, rfl, htext⟩
    rcases herrors with ⟨hlacks, rfl⟩ | ⟨part, hpart, hlist⟩
    · exact ⟨_, none, ⟨status, hstatus, rfl⟩, .inl ⟨hlacks, rfl⟩, rfl⟩
    · have hnull : part ≠ .null := by
        rintro rfl
        exact hlist.1
      exact ⟨_, some errors, ⟨status, hstatus, rfl⟩,
        .inr ⟨part, errors, hpart, hnull, hlist, rfl⟩, rfl⟩

lemma decoder_eq_ok_iff : decoder .json d = .ok e ↔ IsEntry d e := by
  unfold decoder IsEntry
  rw [record_eq_ok_iff, read_map_iff]
  simp only [read_optional_iff, result_eq_ok_iff]
  refine and_congr_right fun _ => ⟨?_, ?_⟩
  · rintro ⟨_, ⟨hlacks, rfl⟩ | ⟨part, e, hpart, -, hresult, rfl⟩, rfl⟩
    · exact .inl ⟨hlacks, rfl⟩
    · exact .inr ⟨part, hpart, hresult⟩
  · rintro (⟨hlacks, rfl⟩ | ⟨part, hpart, hresult⟩)
    · exact ⟨none, .inl ⟨hlacks, rfl⟩, rfl⟩
    · have hnull : part ≠ .null := by
        rintro rfl
        exact hresult.1
      exact ⟨some e, .inr ⟨part, e, hpart, hnull, hresult, rfl⟩, rfl⟩

/-- The entries are read off a body just when it lists them. -/
lemma listed_iff {body : String} {entries : List Entry} :
    Decoder.decodeText (.list decoder) body = .ok entries ↔ Listed body entries := by
  rw [Decoder.decodeText_eq_ok_iff, Listed]
  simp only [Decoder.list_eq_ok_iff fun _ _ => decoder_eq_ok_iff]
  constructor
  · rintro ⟨d, hread, items, rfl, hitems⟩
    exact ⟨items, hread, hitems⟩
  · rintro ⟨items, hread, hitems⟩
    exact ⟨_, hread, items, rfl, hitems⟩

/-! ## Entries and outcomes -/

/-- The entry rejects its item: it has an error, or its status says so in any letter case. -/
def Rejects (e : Entry) : Prop :=
  e.errors ≠ [] ∨ ∃ status, e.status = some status ∧ Text.foldCase status = Text.foldCase "FAILED"

lemma isFailed_iff : e.isFailed ↔ e.Rejects := by
  have hfailed : Text.foldCase "FAILED" = failedStatus := by decide
  rw [isFailed, Rejects, hfailed, Bool.or_eq_true, Option.any_eq_true]
  simp

/-- The outcome is the one that an entry decides. -/
def Decides (e : Entry) (result : ItemResult) : Prop :=
  (result.status = .failed ↔ e.Rejects) ∧ result.errors = e.errors ∧ result.detail = none

@[simp] lemma id_outcome (id : String) (e : Entry) : (e.outcome id).id = id := by
  unfold outcome
  split <;> rfl

lemma decides_outcome (id : String) (e : Entry) : e.Decides (e.outcome id) := by
  unfold outcome
  split
  · rename_i hfailed
    exact ⟨iff_of_true rfl (isFailed_iff.mp hfailed), rfl, rfl⟩
  · rename_i hwritten
    have hrejects := mt isFailed_iff.mpr hwritten
    have herrors : e.errors = [] := by
      by_contra herrors
      exact hrejects (.inl herrors)
    exact ⟨iff_of_false nofun hrejects, herrors.symm, rfl⟩

/-- The rejected items are those with an entry that rejects them. -/
lemma map_isFailed {entries : List Entry} {results : List ItemResult}
    (h : List.Forall₂ Decides entries results) :
    results.map ItemResult.isFailed = entries.map isFailed := by
  induction h with
  | nil => rfl
  | @cons entry result entries results hdecides _ ih =>
    have hfailed : result.isFailed = entry.isFailed := by
      rw [Bool.eq_iff_iff, isFailed_iff, ← hdecides.1, ItemResult.isFailed, beq_iff_eq]
    rw [List.map_cons, List.map_cons, ih, hfailed]

/-- Items and entries that are as many as each other are paired place by place. -/
lemma outcomes_spec {α : Type} [Item α] {items : List α} {entries : List Entry}
    (h : entries.length = items.length) :
    (List.zipWith (fun item entry => outcome (Item.id item) entry) items entries).map
        ItemResult.id = items.map Item.id ∧
      List.Forall₂ Decides entries
        (List.zipWith (fun item entry => outcome (Item.id item) entry) items entries) := by
  induction items generalizing entries with
  | nil =>
    obtain rfl := List.eq_nil_of_length_eq_zero h
    exact ⟨rfl, .nil⟩
  | cons item items ih =>
    cases entries with
    | nil => cases h
    | cons entry entries =>
      obtain ⟨hids, hdecides⟩ := ih (Nat.succ.inj h)
      rw [List.zipWith_cons_cons, List.map_cons, List.map_cons, hids, id_outcome]
      exact ⟨rfl, .cons (entry.decides_outcome (Item.id item)) hdecides⟩

end Entry

/-! ## Items that share a request -/

/-- Items of which a batch makes one request. -/
class Joint (α : Type) extends Writable α where
  /-- Where the request goes. -/
  url : Store → Url
  /-- What its body holds. -/
  message : List α → Json
  submit_eq : ∀ (s : Store) (items : List α) (exchange : Nat → Http.Exchange),
    Writable.submit s items exchange =
      s.submitTogether (url s) (message items) items (exchange 0)

instance : Joint ObjectItem := ⟨Store.objectsUrl, ObjectItem.message, fun _ _ _ => rfl⟩

instance : Joint ReferenceItem := ⟨Store.referencesUrl, ReferenceItem.message, fun _ _ _ => rfl⟩

namespace Store

variable {α : Type} [Joint α] {s : Store} {batch : Batch α} {exchange : Nat → Http.Exchange}
  {address : Url} {status : UInt16} {body : String} {entries : List Entry}

/-- A submission to an address that can be reached sends its request and correlates the answer. -/
lemma submit_joint (hreach : Http.destination (Joint.url α s) = .ok address) (batch : Batch α)
    (exchange : Nat → Http.Exchange) :
    ∃ request, s.submit batch exchange =
      ⟨[request], (answer (.list Entry.decoder) request (exchange 0)).bind
        (correlate batch.items)⟩ := by
  obtain ⟨request, hrequest⟩ := s.client.exists_request hreach "POST" (s.queryFields none)
    (some (Joint.message batch.items))
  refine ⟨request, ?_⟩
  rw [submit, Joint.submit_eq, submitTogether, hrequest]

/-- The store carried out the request and answered with these entries. -/
def AnswersWith (x : Http.Exchange) (entries : List Entry) : Prop :=
  ∃ status body, x = .answered status body ∧ status.toNat / 100 = 2 ∧ Entry.Listed body entries

lemma answersWith_answered : AnswersWith (.answered status body) entries ↔
    status.toNat / 100 = 2 ∧ Entry.Listed body entries := by
  constructor
  · rintro ⟨_, _, heq, hsuccess, hlisted⟩
    obtain ⟨rfl, rfl⟩ := Http.Exchange.answered.inj heq
    exact ⟨hsuccess, hlisted⟩
  · rintro ⟨hsuccess, hlisted⟩
    exact ⟨status, body, rfl, hsuccess, hlisted⟩

lemma brings_iff {x : Http.Exchange} : x.Brings (.list Entry.decoder) entries ↔
    AnswersWith x entries := by
  unfold Http.Exchange.Brings AnswersWith
  simp only [Entry.listed_iff]

/-- The reply correlates the entries that the store answers with. -/
lemma reply_of_answersWith (hreach : Http.destination (Joint.url α s) = .ok address)
    (batch : Batch α) (h : AnswersWith (exchange 0) entries) :
    (s.submit batch exchange).reply = correlate batch.items entries := by
  obtain ⟨request, hsubmit⟩ := submit_joint hreach batch exchange
  rw [hsubmit, answer_eq_ok_iff.mpr (brings_iff.mpr h)]
  rfl

/-- Anything else is a fault that the exchange raises. -/
lemma reply_of_not_answersWith (hreach : Http.destination (Joint.url α s) = .ok address)
    (batch : Batch α) (h : ∀ entries, ¬AnswersWith (exchange 0) entries) :
    ∃ fault, (s.submit batch exchange).reply = .error fault ∧
      (exchange 0).Raises (.list Entry.decoder) fault := by
  obtain ⟨request, hsubmit⟩ := submit_joint hreach batch exchange
  obtain ⟨fault, hanswer, hraises⟩ :=
    exists_answer_error request fun entries => mt brings_iff.mp (h entries)
  refine ⟨fault, ?_, hraises⟩
  rw [hsubmit, hanswer]
  rfl

/-- Outcomes are only ever brought back for all items, each from the entry at its place. -/
lemma results_of_reply (hreach : Http.destination (Joint.url α s) = .ok address)
    {results : List ItemResult} (h : (s.submit batch exchange).reply = .ok results) :
    ∃ entries, AnswersWith (exchange 0) entries ∧ entries.length = batch.items.length ∧
      results =
        List.zipWith (fun item entry => entry.outcome (Item.id item)) batch.items entries := by
  by_cases hanswers : ∃ entries, AnswersWith (exchange 0) entries
  · obtain ⟨entries, hanswers⟩ := hanswers
    rw [reply_of_answersWith hreach batch hanswers] at h
    unfold correlate at h
    split at h
    · rename_i hlength
      exact ⟨entries, hanswers, hlength, (Except.ok.inj h).symm⟩
    · cases h
  · obtain ⟨fault, hreply, -⟩ :=
      reply_of_not_answersWith hreach batch (not_exists.mp hanswers)
    rw [hreply] at h
    cases h

/-! ## Main statement -/

/-- How a store answers for the items of a batch that share a request: in full or not at all. -/
structure Correlates (s : Store) (batch : Batch α) : Prop where
  /-- There is one request. -/
  length_requests : ∀ exchange, (s.submit batch exchange).requests.length = 1
  /-- A status of failure is reported as such. -/
  status_of_failure : ∀ exchange status body, exchange 0 = .answered status body →
    status.toNat / 100 ≠ 2 →
      (s.submit batch exchange).reply = .error (.status status (Fault.detail body))
  /-- So is a body that does not list entries. -/
  decode_of_unlisted : ∀ exchange status body, exchange 0 = .answered status body →
    status.toNat / 100 = 2 → (∀ entries, ¬Entry.Listed body entries) →
      ∃ message, (s.submit batch exchange).reply = .error (.decode message)
  /-- And entries that are more or fewer than the items. -/
  protocol_of_count : ∀ exchange entries, AnswersWith (exchange 0) entries →
    entries.length ≠ batch.items.length →
      ∃ message, (s.submit batch exchange).reply = .error (.protocol message) ∧
        (batch.items.length < UInt64.size → entries.length < UInt64.size → message =
          s!"expected {batch.items.length} item results, received {entries.length}")
  /-- As many entries as items make the outcomes of the items, in order and place by place. -/
  results_of_count : ∀ exchange entries, AnswersWith (exchange 0) entries →
    entries.length = batch.items.length →
      ∃ results, (s.submit batch exchange).reply = .ok results ∧
        results.map ItemResult.id = batch.ids ∧ List.Forall₂ Entry.Decides entries results
  /-- Whatever else the store answers, the entry of an item makes its outcome. -/
  outcome_of_entry : ∀ (exchange exchange' : Nat → Http.Exchange) (entries entries' : List Entry)
    (results results' : List ItemResult) (i : Nat),
      AnswersWith (exchange 0) entries → AnswersWith (exchange' 0) entries' →
      (s.submit batch exchange).reply = .ok results →
      (s.submit batch exchange').reply = .ok results' →
        entries[i]? = entries'[i]? → results[i]? = results'[i]?
  /-- No reply leaves out an item. -/
  length_results : ∀ exchange results, (s.submit batch exchange).reply = .ok results →
    results.length = batch.items.length

lemma correlates_of_reachable (hreach : Http.destination (Joint.url α s) = .ok address)
    (batch : Batch α) : s.Correlates batch where
  length_requests exchange := by
    obtain ⟨request, hsubmit⟩ := submit_joint hreach batch exchange
    rw [hsubmit]
    rfl
  status_of_failure exchange status body hanswered hfailed := by
    have hnone : ∀ entries, ¬AnswersWith (exchange 0) entries := by
      intro entries hanswers
      rw [hanswered, answersWith_answered] at hanswers
      exact hfailed hanswers.1
    obtain ⟨fault, hreply, hraises⟩ := reply_of_not_answersWith hreach batch hnone
    rw [hanswered] at hraises
    cases hraises with
    | status => exact hreply
    | body hsuccess => exact absurd hsuccess hfailed
  decode_of_unlisted exchange status body hanswered hsuccess hunlisted := by
    have hnone : ∀ entries, ¬AnswersWith (exchange 0) entries := by
      intro entries hanswers
      rw [hanswered, answersWith_answered] at hanswers
      exact hunlisted entries hanswers.2
    obtain ⟨fault, hreply, hraises⟩ := reply_of_not_answersWith hreach batch hnone
    rw [hanswered] at hraises
    cases hraises with
    | status hfailed => exact absurd hsuccess hfailed
    | body _ _ message => exact ⟨message, hreply⟩
  protocol_of_count exchange entries hanswers hcount := by
    rw [reply_of_answersWith hreach batch hanswers, correlate, if_neg hcount]
    refine ⟨_, rfl, fun hitems hentries => ?_⟩
    exact Fault.protocol.inj (Execution.bounded_miscounted hitems hentries)
  results_of_count exchange entries hanswers hcount := by
    obtain ⟨hids, hdecides⟩ := Entry.outcomes_spec hcount
    refine ⟨_, ?_, hids, hdecides⟩
    rw [reply_of_answersWith hreach batch hanswers, correlate, if_pos hcount]
  outcome_of_entry exchange exchange' entries entries' results results' i hanswers hanswers'
      hreply hreply' hentry := by
    -- an exchange brings one list of entries only, so these are the ones that were correlated
    obtain ⟨_, h, -, rfl⟩ := results_of_reply hreach hreply
    obtain rfl := (brings_iff.mpr hanswers).unique (brings_iff.mpr h)
    obtain ⟨_, h', -, rfl⟩ := results_of_reply hreach hreply'
    obtain rfl := (brings_iff.mpr hanswers').unique (brings_iff.mpr h')
    simp only [List.getElem?_zipWith, hentry]
  length_results exchange results hreply := by
    obtain ⟨entries, -, hcount, rfl⟩ := results_of_reply hreach hreply
    rw [List.length_zipWith, hcount, Nat.min_self]

/-- A store whose address can be reached answers for objects and references in full or not at all.
Nothing is sent to another address. -/
theorem submit_correlates (s : Store) (batch : Batch α) :
    (∀ address, Http.destination (Joint.url α s) = .ok address → s.Correlates batch) ∧
      ∀ failure, Http.destination (Joint.url α s) = .error failure →
        ∀ exchange, s.submit batch exchange = ⟨[], .error failure.toFault⟩ := by
  refine ⟨fun address hreach => correlates_of_reachable hreach batch,
    fun failure hunreachable exchange => ?_⟩
  rw [submit, Joint.submit_eq, submitTogether, s.client.request_of_unreachable hunreachable]

/-! The first of three objects is rejected by its status and the last one by an error, and the
result of the one between them is left out. -/

def threeObjects : Batch ObjectItem where
  sequence := 0
  items := [{ id := "a", className := "C" }, { id := "b", className := "C" },
    { id := "c", className := "C" }]

def mixedEntries : Json :=
  .array [.object [("result", .object [("status", .text "Failed"), ("errors", .null)])], .object [],
    .object [("id", .whole 1),
      ("result", .object [("errors",
        .object [("error", .array [.object [("message", .text "bad")]])])])]]

theorem submit_correlates_mixed :
    Http.destination (Joint.url ObjectItem localStore) = .ok localUrl ∧
      ∃ results, (localStore.submit threeObjects fun _ => .answered 200 mixedEntries.print).reply =
          .ok results ∧
        results.map ItemResult.id = ["a", "b", "c"] ∧
        results.map ItemResult.isFailed = [true, false, true] := by
  have hreach : Http.destination (Joint.url ObjectItem localStore) = .ok localUrl := rfl
  have hlisted : Entry.Listed mixedEntries.print [⟨some "Failed", []⟩, {}, ⟨none, [⟨"bad"⟩]⟩] :=
    Entry.listed_iff.mp (Decoder.decodeText_eq_ok_iff.mpr ⟨_, Document.read?_print _, rfl⟩)
  obtain ⟨results, hreply, hids, hdecides⟩ :=
    ((submit_correlates localStore threeObjects).1 localUrl hreach).results_of_count
      (fun _ => .answered 200 mixedEntries.print) _ (answersWith_answered.mpr ⟨rfl, hlisted⟩) rfl
  refine ⟨hreach, results, hreply, hids, ?_⟩
  rw [Entry.map_isFailed hdecides]
  decide

end Store

end BulkWrite
