import BulkWrite.Proofs.Json.Reading
import BulkWrite.Proofs.Store.Answers
import BulkWrite.Proofs.Verdict

/-!
# Filtered deletes in turn

Every filtered delete of a batch makes its own request (`Store.Asks` says what stands in it), and the
store answers it with a summary. The requests go out in the order of the batch, up to the first that
does not come to a summary (`Store.submitDeletes_cons` is one turn). So a submission has carried out the first deletes of its
batch, and all of them if it brings outcomes; and another attempt begins with the first one again
(`Store.deletes_in_turn`).
-/

namespace BulkWrite

/-! ## Summaries as documents -/

namespace DeleteSummary

open Fields

variable {d : Document} {s : DeleteSummary}

/-- A count in a record; there is nothing to count if it is missing. -/
def IsCount (index : Nat) (name : String) (d : Document) (n : UInt64) : Prop :=
  (d.Part index name none ∧ n = 0) ∨ d.Part index name (some (.number (.whole n.toNat)))

/-- The objects in a record; none are reported if they are missing or null. -/
def AreObjects (index : Nat) (name : String) (d : Document) (objects : Option (List Json)) : Prop :=
  (d.Lacks index name ∧ objects = none) ∨
    ∃ items values, d.Part index name (some (.sequence items)) ∧
      List.Forall₂ (fun item value => item.toJson? = some value) items values ∧
      objects = some values

/-- A summary with its four counts, and perhaps with objects. -/
def IsSummary (d : Document) (s : DeleteSummary) : Prop :=
  d.IsRecord 5 ∧ IsCount 0 "matches" d s.matched ∧ IsCount 1 "limit" d s.limit ∧
    IsCount 2 "successful" d s.successful ∧ IsCount 3 "failed" d s.failed ∧
    AreObjects 4 "objects" d s.objects

/-- The body of an answer reports a summary. -/
def Reported (body : String) (s : DeleteSummary) : Prop :=
  ∃ d part, Document.read? body = some d ∧ d.IsRecord 1 ∧ d.Part 0 "results" (some part) ∧
    IsSummary part s

lemma read_count_iff {name wanted : String} {index : Nat} {n : UInt64} :
    (absentAs name 0 Decoder.word64).read .json index (d.slot wanted) = .ok n ↔
      IsCount index name d n := by
  rw [read_absentAs_iff, IsCount]
  simp only [Decoder.word64_eq_ok_iff]
  refine or_congr (and_congr_right fun _ => eq_comm) ⟨?_, ?_⟩
  · rintro ⟨part, hpart, rfl⟩
    exact hpart
  · intro hpart
    exact ⟨_, hpart, rfl⟩

lemma read_objects_iff {name wanted : String} {index : Nat} {objects : Option (List Json)} :
    (Fields.optional name (Decoder.list Decoder.value)).read .json index (d.slot wanted) =
      .ok objects ↔ AreObjects index name d objects := by
  rw [read_optional_iff, AreObjects]
  simp only [Decoder.list_eq_ok_iff fun _ _ => Decoder.value_eq_ok_iff]
  refine or_congr_right ⟨?_, ?_⟩
  · rintro ⟨part, values, hpart, -, ⟨items, rfl, hitems⟩, rfl⟩
    exact ⟨items, values, hpart, hitems, rfl⟩
  · rintro ⟨items, values, hpart, hitems, rfl⟩
    exact ⟨_, values, hpart, nofun, ⟨items, rfl, hitems⟩, rfl⟩

/-- A summary is read field by field. -/
lemma decoder_eq_ok_iff : decoder .json d = .ok s ↔ IsSummary d s := by
  unfold decoder IsSummary
  rw [record_eq_ok_iff, read_seq_iff]
  simp only [read_seq_iff, read_map_iff, read_count_iff, read_objects_iff]
  refine and_congr_right fun _ => ⟨?_, ?_⟩
  · rintro ⟨_, objects, ⟨_, failed, ⟨_, successful, ⟨_, limit, ⟨matched, hmatched, rfl⟩, hlimit,
      rfl⟩, hsuccessful, rfl⟩, hfailed, rfl⟩, hobjects, rfl⟩
    exact ⟨hmatched, hlimit, hsuccessful, hfailed, hobjects⟩
  · rintro ⟨hmatched, hlimit, hsuccessful, hfailed, hobjects⟩
    exact ⟨_, _, ⟨_, _, ⟨_, _, ⟨_, _, ⟨_, hmatched, rfl⟩, hlimit, rfl⟩, hsuccessful, rfl⟩, hfailed,
      rfl⟩, hobjects, rfl⟩

/-- A summary is read off a body just when it reports one. -/
lemma reported_iff {body : String} : Decoder.decodeText answer body = .ok s ↔ Reported body s := by
  rw [Decoder.decodeText_eq_ok_iff, Reported]
  have hanswer (d : Document) : answer .json d = .ok s ↔
      d.IsRecord 1 ∧ ∃ part, d.Part 0 "results" (some part) ∧ IsSummary part s := by
    unfold answer
    rw [record_eq_ok_iff]
    show _ ∧ (required "results" decoder).read .json 0 _ = .ok s ↔ _
    simp only [read_required_iff, decoder_eq_ok_iff]
    rfl
  simp only [hanswer]
  constructor
  · rintro ⟨d, hread, hrecord, part, hpart, hsummary⟩
    exact ⟨d, part, hread, hrecord, hpart, hsummary⟩
  · rintro ⟨d, part, hread, hrecord, hpart, hsummary⟩
    exact ⟨d, hread, hrecord, part, hpart, hsummary⟩

/-- The outcome of a delete says what its summary says. -/
def Summarizes (s : DeleteSummary) (result : ItemResult) : Prop :=
  (result.status = .failed ↔ s.failed ≠ 0) ∧
    result.detail = some (.object
      ([("failed", .whole s.failed.toNat), ("limit", .whole s.limit.toNat),
          ("matches", .whole s.matched.toNat)] ++
        (s.objects.map fun objects => ("objects", Json.array objects)).toList ++
        [("successful", .whole s.successful.toNat)]))

lemma id_outcome (id : String) (s : DeleteSummary) : (s.outcome id).id = id := by
  unfold outcome
  split <;> rfl

lemma summarizes_outcome (id : String) (s : DeleteSummary) : s.Summarizes (s.outcome id) := by
  have hdetail : (s.outcome id).detail = some s.toJson := rfl
  refine ⟨?_, ?_⟩
  · unfold outcome
    split
    · rename_i hfailed
      exact iff_of_false nofun (not_not.mpr hfailed)
    · rename_i hfailed
      exact iff_of_true rfl hfailed
  · rw [hdetail, toJson]
    cases s.objects <;> rfl

end DeleteSummary

namespace Store

variable {s : Store} {address : Url} {exchange : Nat → Http.Exchange} {d : DeleteItem}
  {filters : List DeleteItem} {batch : Batch DeleteItem} {k : Nat}

/-- The store carried out a delete and reported a summary. -/
def Reports (x : Http.Exchange) (summary : DeleteSummary) : Prop :=
  ∃ status body, x = .answered status body ∧ status.toNat / 100 = 2 ∧
    DeleteSummary.Reported body summary

lemma reports_iff {x : Http.Exchange} {summary : DeleteSummary} :
    x.Brings DeleteSummary.answer summary ↔ Reports x summary := by
  unfold Http.Exchange.Brings Reports
  simp only [DeleteSummary.reported_iff]

/-! ## The request of a delete -/

/-- The query of a filtered delete: the level of consistency and the tenant, as far as they are
set. -/
def deleteQuery? (s : Store) (d : DeleteItem) : Option String :=
  let form (fields : List (String × String)) := some (String.ofList (Percent.form fields))
  match s.consistency, d.tenant with
  | none, none => s.objectsUrl.query
  | some level, none => form [("consistency_level", level.queryValue)]
  | none, some tenant => form [("tenant", tenant)]
  | some level, some tenant =>
    form [("consistency_level", level.queryValue), ("tenant", tenant)]

/-- A request asks the store for a filtered delete. -/
structure Asks (s : Store) (d : DeleteItem) (request : Http.Request) : Prop where
  method_eq : request.method = "DELETE"
  url_eq : request.url = { s.objectsUrl.withoutUser with query := s.deleteQuery? d }
  body_eq : request.body = some (.object
    [("match", .object [("class", .text d.className), ("where", d.filter)]),
      ("output", .text d.output.name), ("dryRun", .bool d.dryRun)])
  /-- A user in the address takes the place of the client's own credentials. -/
  headers_eq : request.headers = Http.Headers.insertAll
    (("content-type", "application/json") ::
      ((Http.userCredentials? s.objectsUrl).map (Http.authorization, ·)).toList) s.client.headers

lemma asks_of_deleteRequest {request : Http.Request} (h : s.deleteRequest d = .ok request) :
    s.Asks d request := by
  unfold deleteRequest Http.Client.request at h
  cases hreach : Http.destination s.objectsUrl with
  | error failure =>
    rw [hreach] at h
    cases h
  | ok address =>
    rw [hreach] at h
    obtain rfl := Except.ok.inj h
    obtain rfl := Http.eq_withoutUser_of_destination hreach
    have hquery : (if (s.queryFields d.tenant).isEmpty then s.objectsUrl.query else
        some (String.ofList (Percent.form (s.queryFields d.tenant)))) = s.deleteQuery? d := by
      unfold queryFields deleteQuery?
      cases s.consistency <;> cases d.tenant <;> rfl
    exact ⟨rfl, congrArg (fun query => { s.objectsUrl.withoutUser with query }) hquery, rfl, rfl⟩

/-- The requests are those of the deletes, one for each and in their order. -/
def Requests (s : Store) (filters : List DeleteItem) (requests : List Http.Request) : Prop :=
  List.Forall₂ s.Asks filters requests

/-! ## One delete after the other -/

/-- The first delete makes the first request. After a summary the other deletes follow, and after
anything else there is only the fault. -/
lemma submitDeletes_cons (hreach : Http.destination s.objectsUrl = .ok address)
    (exchange : Nat → Http.Exchange) (d : DeleteItem) (filters : List DeleteItem) (k : Nat) :
    ∃ request, s.Asks d request ∧
      ((∃ summary, Reports (exchange k) summary ∧
          s.submitDeletes exchange (d :: filters) k =
            ⟨request :: (s.submitDeletes exchange filters (k + 1)).requests,
              (s.submitDeletes exchange filters (k + 1)).reply.map (summary.outcome d.id :: ·)⟩) ∨
        ∃ fault, (exchange k).Raises DeleteSummary.answer fault ∧
          answer DeleteSummary.answer request (exchange k) = .error fault ∧
          s.submitDeletes exchange (d :: filters) k = ⟨[request], .error fault⟩) := by
  obtain ⟨request, hrequest⟩ := s.client.exists_request hreach "DELETE" (s.queryFields d.tenant)
    (some d.message)
  have hrequest : s.deleteRequest d = .ok request := hrequest
  refine ⟨request, asks_of_deleteRequest hrequest, ?_⟩
  rcases answer_cases DeleteSummary.answer request (exchange k) with
    ⟨summary, hanswer, hbrings⟩ | ⟨fault, hanswer, hraises⟩
  · refine .inl ⟨summary, reports_iff.mp hbrings, ?_⟩
    rw [submitDeletes, hrequest]
    simp only [hanswer]
  · refine .inr ⟨fault, hraises, hanswer, ?_⟩
    rw [submitDeletes, hrequest]
    simp only [hanswer]

lemma not_reports_of_raises {x : Http.Exchange} {fault : Fault}
    (h : x.Raises DeleteSummary.answer fault) (summary : DeleteSummary) : ¬Reports x summary :=
  mt reports_iff.mpr (h.not_brings summary)

/-- The requests are those of the first deletes; the first delete is one of these. -/
lemma submitDeletes_requests (hreach : Http.destination s.objectsUrl = .ok address)
    (exchange : Nat → Http.Exchange) (filters : List DeleteItem) (k : Nat) :
    ∃ j ≤ filters.length, (filters ≠ [] → 0 < j) ∧
      s.Requests (filters.take j) (s.submitDeletes exchange filters k).requests := by
  induction filters generalizing k with
  | nil => exact ⟨0, Nat.le_refl 0, fun hsome => absurd rfl hsome, .nil⟩
  | cons d filters ih =>
    obtain ⟨request, hasks, ⟨summary, -, hsubmit⟩ | ⟨fault, -, -, hsubmit⟩⟩ :=
      submitDeletes_cons hreach exchange d filters k
    · obtain ⟨j, hj, -, hrequests⟩ := ih (k + 1)
      rw [hsubmit]
      exact ⟨j + 1, Nat.succ_le_succ hj, fun _ => Nat.succ_pos j, .cons hasks hrequests⟩
    · rw [hsubmit]
      exact ⟨1, by simp, fun _ => Nat.one_pos, .cons hasks .nil⟩

/-- From the exchange `k` on, the store reports the summaries one after the other. -/
def ReportsAll (exchange : Nat → Http.Exchange) (k : Nat) (summaries : List DeleteSummary) : Prop :=
  ∀ i summary, summaries[i]? = some summary → Reports (exchange (k + i)) summary

lemma reportsAll_cons {first : DeleteSummary} {summaries : List DeleteSummary} :
    ReportsAll exchange k (first :: summaries) ↔
      Reports (exchange k) first ∧ ReportsAll exchange (k + 1) summaries := by
  have hshift (i : Nat) : k + 1 + i = k + (i + 1) := by omega
  constructor
  · intro h
    exact ⟨h 0 first rfl, fun i summary hi => hshift i ▸ h (i + 1) summary hi⟩
  · rintro ⟨hfirst, hrest⟩ (- | i) summary hi
    · obtain rfl := Option.some.inj hi
      exact hfirst
    · exact hshift i ▸ hrest i summary hi

/-- Outcomes are brought back only if every delete was reported. -/
lemma reports_of_reply (hreach : Http.destination s.objectsUrl = .ok address)
    {results : List ItemResult} (h : (s.submitDeletes exchange filters k).reply = .ok results) :
    ∃ summaries : List DeleteSummary, summaries.length = filters.length ∧
      ReportsAll exchange k summaries := by
  induction filters generalizing k results with
  | nil => exact ⟨[], rfl, nofun⟩
  | cons d filters ih =>
    obtain ⟨request, -, ⟨summary, hreports, hsubmit⟩ | ⟨fault, -, -, hsubmit⟩⟩ :=
      submitDeletes_cons hreach exchange d filters k
    · rw [hsubmit] at h
      cases hrest : (s.submitDeletes exchange filters (k + 1)).reply with
      | error fault =>
        simp only [hrest] at h
        cases h
      | ok rest =>
        obtain ⟨summaries, hlength, hlater⟩ := ih hrest
        exact ⟨summary :: summaries, congrArg (· + 1) hlength,
          reportsAll_cons.mpr ⟨hreports, hlater⟩⟩
    · rw [hsubmit] at h
      cases h

/-- If every delete is reported, then all requests are sent, and every outcome is that of its own
summary. -/
lemma submitDeletes_of_reports (hreach : Http.destination s.objectsUrl = .ok address)
    {summaries : List DeleteSummary} (hlength : summaries.length = filters.length)
    (h : ReportsAll exchange k summaries) :
    s.Requests filters (s.submitDeletes exchange filters k).requests ∧
      ∃ results, (s.submitDeletes exchange filters k).reply = .ok results ∧
        results.map ItemResult.id = filters.map DeleteItem.id ∧
        List.Forall₂ DeleteSummary.Summarizes summaries results := by
  induction filters generalizing k summaries with
  | nil =>
    obtain rfl := List.eq_nil_of_length_eq_zero hlength
    exact ⟨.nil, [], rfl, rfl, .nil⟩
  | cons d filters ih =>
    cases summaries with
    | nil => cases hlength
    | cons first summaries =>
      obtain ⟨hfirst, hlater⟩ := reportsAll_cons.mp h
      obtain ⟨request, hasks, ⟨summary, hreports, hsubmit⟩ | ⟨fault, hraises, -, -⟩⟩ :=
        submitDeletes_cons hreach exchange d filters k
      · obtain rfl := (reports_iff.mpr hreports).unique (reports_iff.mpr hfirst)
        obtain ⟨hrequests, results, hreply, hids, hresults⟩ := ih (Nat.succ.inj hlength) hlater
        rw [hsubmit, hreply]
        refine ⟨.cons hasks hrequests, _, rfl, ?_, ?_⟩
        · rw [List.map_cons, List.map_cons, hids, DeleteSummary.id_outcome]
        · exact .cons (summary.summarizes_outcome d.id) hresults
      · exact absurd hfirst (not_reports_of_raises hraises first)

/-- The first delete that is not reported is the last one to be requested, and its fault is all that
is brought back. -/
lemma submitDeletes_of_fault (hreach : Http.destination s.objectsUrl = .ok address) {j : Nat}
    (hj : j < filters.length) (hbefore : ∀ i < j, ∃ summary, Reports (exchange (k + i)) summary)
    (hfault : ∀ summary, ¬Reports (exchange (k + j)) summary) :
    s.Requests (filters.take (j + 1)) (s.submitDeletes exchange filters k).requests ∧
      ∃ request fault, (s.submitDeletes exchange filters k).requests[j]? = some request ∧
        answer DeleteSummary.answer request (exchange (k + j)) = .error fault ∧
        (exchange (k + j)).Raises DeleteSummary.answer fault ∧
        (s.submitDeletes exchange filters k).reply = .error fault := by
  induction filters generalizing k j with
  | nil => exact absurd hj (Nat.not_lt_zero j)
  | cons d filters ih =>
    obtain ⟨request, hasks, ⟨summary, hreports, hsubmit⟩ | ⟨fault, hraises, hanswer, hsubmit⟩⟩ :=
      submitDeletes_cons hreach exchange d filters k
    · cases j with
      | zero => exact absurd hreports (hfault summary)
      | succ j =>
        -- the fault is that of a later delete, which is counted from the next exchange on
        have hshift (i : Nat) : k + 1 + i = k + (i + 1) := by omega
        obtain ⟨hrequests, last, fault, hlast, hanswer, hraises, hreply⟩ :=
          ih (k := k + 1) (Nat.lt_of_succ_lt_succ hj)
            (fun i hi => hshift i ▸ hbefore (i + 1) (Nat.succ_lt_succ hi))
            (fun summary => hshift j ▸ hfault summary)
        rw [hshift] at hanswer hraises
        rw [hsubmit, hreply]
        exact ⟨.cons hasks hrequests, last, fault, hlast, hanswer, hraises, rfl⟩
    · cases j with
      | zero =>
        rw [hsubmit]
        exact ⟨.cons hasks .nil, request, fault, rfl, hanswer, hraises, rfl⟩
      | succ j =>
        obtain ⟨summary, hreports⟩ := hbefore 0 (Nat.succ_pos j)
        exact absurd hreports (not_reports_of_raises hraises summary)

/-! ## Attempts -/

lemma submit_deletes (s : Store) (batch : Batch DeleteItem) (exchange : Nat → Http.Exchange) :
    s.submit batch exchange = s.submitDeletes exchange batch.items 0 := rfl

/-- An attempt that brings outcomes has requested every delete, and every one was reported. -/
lemma attempt_of_ok (hreach : Http.destination s.objectsUrl = .ok address)
    (batch : Batch DeleteItem) {results : List ItemResult}
    (h : (s.attempt batch exchange k).reply = .ok results) :
    s.Requests batch.items (s.attempt batch exchange k).requests ∧
      ∃ summaries, summaries.length = batch.items.length ∧
        ReportsAll exchange (s.sentBefore batch exchange k) summaries ∧
        List.Forall₂ DeleteSummary.Summarizes summaries results := by
  rw [attempt, submit_deletes] at h ⊢
  obtain ⟨summaries, hlength, hreports⟩ := reports_of_reply hreach h
  obtain ⟨hrequests, results', hreply, -, hsummarizes⟩ :=
    submitDeletes_of_reports hreach hlength hreports
  rw [h] at hreply
  obtain rfl := Except.ok.inj hreply
  refine ⟨hrequests, summaries, hlength, fun i summary hi => ?_, hsummarizes⟩
  have hreport := hreports i summary hi
  rwa [Nat.zero_add] at hreport

/-! ## Main statement -/

/-- How a store carries out the deletes of a batch: one after the other, up to the first fault. -/
structure DeletesInTurn (s : Store) (batch : Batch DeleteItem) : Prop where
  /-- The first delete that is not reported is the last to be requested, and its fault is all that
  is brought back. -/
  fault_first : ∀ exchange j, j < batch.items.length →
    (∀ i < j, ∃ summary, Reports (exchange i) summary) →
    (∀ summary, ¬Reports (exchange j) summary) →
      (s.submit batch exchange).requests.length = j + 1 ∧
        s.Requests (batch.items.take (j + 1)) (s.submit batch exchange).requests ∧
        ∃ request fault, (s.submit batch exchange).requests[j]? = some request ∧
          answer DeleteSummary.answer request (exchange j) = .error fault ∧
          (exchange j).Raises DeleteSummary.answer fault ∧
          (s.submit batch exchange).reply = .error fault
  /-- If every delete is reported, there is one request and one outcome for each, in order. -/
  all_reported : ∀ exchange summaries, summaries.length = batch.items.length →
    ReportsAll exchange 0 summaries →
      s.Requests batch.items (s.submit batch exchange).requests ∧
        ∃ results, (s.submit batch exchange).reply = .ok results ∧
          results.map ItemResult.id = batch.ids ∧
          List.Forall₂ DeleteSummary.Summarizes summaries results
  /-- Every attempt at the batch begins with its first delete. -/
  begins_again : ∀ exchange k, batch.items ≠ [] →
    ∃ j, 0 < j ∧ j ≤ batch.items.length ∧
      s.Requests (batch.items.take j) (s.attempt batch exchange k).requests
  /-- Without a fault in the result, the last attempt requested every delete and every one of them
  was reported. -/
  reported_of_executed : ∀ policy exchange,
    (s.execute policy batch exchange).result.error = none →
      let last := (s.execute policy batch exchange).submissions - 1
      s.Requests batch.items (s.attempt batch exchange last).requests ∧
        ∃ summaries, summaries.length = batch.items.length ∧
          ReportsAll exchange (s.sentBefore batch exchange last) summaries ∧
          List.Forall₂ DeleteSummary.Summarizes summaries
            (s.execute policy batch exchange).result.items

lemma inTurn_of_reachable (hreach : Http.destination s.objectsUrl = .ok address)
    (batch : Batch DeleteItem) : s.DeletesInTurn batch where
  fault_first exchange j hj hbefore hfault := by
    rw [submit_deletes]
    have hshift (i : Nat) : 0 + i = i := Nat.zero_add i
    obtain ⟨hrequests, request, fault, hrequest, hanswer, hraises, hreply⟩ :=
      submitDeletes_of_fault (k := 0) hreach hj (fun i hi => (hshift i).symm ▸ hbefore i hi)
        (fun summary => (hshift j).symm ▸ hfault summary)
    rw [hshift] at hanswer hraises
    have hlength : (s.submitDeletes exchange batch.items 0).requests.length = j + 1 := by
      rw [← hrequests.length_eq, List.length_take]
      omega
    exact ⟨hlength, hrequests, request, fault, hrequest, hanswer, hraises, hreply⟩
  all_reported exchange summaries hlength hreports :=
    submitDeletes_of_reports hreach hlength hreports
  begins_again exchange k hsome := by
    obtain ⟨j, hj, hpos, hrequests⟩ := submitDeletes_requests hreach
      (fun i => exchange (s.sentBefore batch exchange k + i)) batch.items 0
    exact ⟨j, hpos hsome, hj, hrequests⟩
  reported_of_executed policy exchange herror := by
    by_cases hnone : batch.items = []
    · -- a batch without deletes is not submitted, and neither would an attempt at it send anything
      rw [show s.execute policy batch exchange = ⟨0, [], { sequence := batch.sequence }⟩ from
        if_pos (by simpa using hnone)]
      exact attempt_of_ok hreach batch (by rw [attempt, submit_deletes, hnone]; rfl)
    · obtain ⟨k, hsubmissions, hverdict⟩ :=
        Execution.run_verdict policy hnone fun k => (s.attempt batch exchange k).reply
      have hsubmissions : (s.execute policy batch exchange).submissions = k + 1 := hsubmissions
      have herror : (Execution.run policy batch fun k =>
        (s.attempt batch exchange k).reply).result.error = none := herror
      rw [herror] at hverdict
      rw [hsubmissions]
      exact attempt_of_ok hreach batch (Execution.eq_ok_of_verdict hverdict)

/-- A store whose address can be reached carries out deletes one after the other. Nothing is sent to
another address. -/
theorem deletes_in_turn (s : Store) (batch : Batch DeleteItem) :
    (∀ address, Http.destination s.objectsUrl = .ok address → s.DeletesInTurn batch) ∧
      ∀ failure, Http.destination s.objectsUrl = .error failure → batch.items ≠ [] →
        ∀ exchange, s.submit batch exchange = ⟨[], .error failure.toFault⟩ := by
  refine ⟨fun address hreach => inTurn_of_reachable hreach batch,
    fun failure hunreachable hsome exchange => ?_⟩
  obtain ⟨d, filters, hitems⟩ := List.exists_cons_of_ne_nil hsome
  rw [submit_deletes, hitems, submitDeletes, deleteRequest,
    s.client.request_of_unreachable hunreachable]

/-! The first of three deletes is reported, and the store is too busy for the second one, which is
that of a tenant. -/

def threeDeletes : Batch DeleteItem where
  sequence := 0
  items := [{ id := "a", className := "C", filter := .null },
    { id := "b", className := "D", filter := .bool true, dryRun := true, tenant := some "t" },
    { id := "c", className := "C", filter := .null }]

def summaryBody : Json :=
  .object [("results", .object [("matches", .whole 2), ("failed", .whole 1), ("objects", .null)])]

def busyExchange : Nat → Http.Exchange
  | 0 => .answered 200 summaryBody.print
  | _ => .answered 503 "busy"

theorem deletes_in_turn_busy :
    Http.destination localStore.objectsUrl = .ok localUrl ∧
      (∃ first last, (localStore.submit threeDeletes busyExchange).requests = [first, last] ∧
        first.url.query = none ∧ last.method = "DELETE" ∧ last.url.query = some "tenant=t" ∧
        last.body = some (.object
          [("match", .object [("class", .text "D"), ("where", .bool true)]),
            ("output", .text "minimal"), ("dryRun", .bool true)])) ∧
      (localStore.submit threeDeletes busyExchange).reply = .error (.status 503 "busy") := by
  have hreach : Http.destination localStore.objectsUrl = .ok localUrl := rfl
  have hfirst : Reports (busyExchange 0) ⟨2, 0, 0, 1, none⟩ :=
    ⟨200, summaryBody.print, rfl, rfl, DeleteSummary.reported_iff.mp
      (Decoder.decodeText_eq_ok_iff.mpr ⟨_, Document.read?_print _, rfl⟩)⟩
  have hbefore : ∀ i < 1, ∃ summary, Reports (busyExchange i) summary := by
    intro i hi
    obtain rfl := Nat.lt_one_iff.mp hi
    exact ⟨_, hfirst⟩
  have hsecond : ∀ summary, ¬Reports (busyExchange 1) summary :=
    not_reports_of_raises (.status (by decide))
  obtain ⟨-, hrequests, request, fault, -, -, hraises, hreply⟩ :=
    ((deletes_in_turn localStore threeDeletes).1 localUrl hreach).fault_first busyExchange 1
      (by decide) hbefore hsecond
  refine ⟨hreach, ?_, ?_⟩
  · obtain ⟨first, rest, hone, hrest, hsent⟩ := List.forall₂_cons_left_iff.mp hrequests
    obtain ⟨last, more, htwo, hmore, rfl⟩ := List.forall₂_cons_left_iff.mp hrest
    obtain rfl := List.forall₂_nil_left_iff.mp hmore
    refine ⟨first, last, hsent, ?_, htwo.method_eq, ?_, htwo.body_eq⟩
    · rw [hone.url_eq]
      rfl
    · rw [htwo.url_eq]
      rfl
  · cases hraises with
    | status => exact hreply
    | body hsuccess => exact absurd hsuccess (by decide)

end Store

end BulkWrite
