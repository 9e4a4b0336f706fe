import BulkWrite.Proofs.Batcher.Answers
import BulkWrite.Proofs.Batcher.Barrier

/-!
# What the pool makes no difference to

How the items are divided into batches is settled by the items and by where flushes cut: a call that
enqueues forms a batch just when it is full, so between two cuts the items go into full batches one
after the other (`eq_of_shortEnds`). And what becomes of a batch is settled by the answers to it
(`Runs.result_of_answered`). Main statement: a run that delivers everything calls back, under each
number, the result that the batch has when it is executed on its own; so runs with the same items,
cuts and answers deliver the same results under the same numbers, however many workers there are and
in whatever order they act (`Runs.pooled`).
-/

namespace BulkWrite.Batcher

open History

variable {α : Type}

/-! ## Dividing a list -/

section

variable {size n m : Nat} {part other : List α} {parts others : List (List α)}

/-- A part ends at a position of a divided list and is smaller than the given size. -/
def ShortEnd (size : Nat) (parts : List (List α)) (n : Nat) : Prop :=
  ∃ earlier part later, parts = earlier ++ part :: later ∧ part.length < size ∧
    n = (earlier.flatten ++ part).length

lemma shortEnd_cons : ShortEnd size (part :: parts) n ↔
    (part.length < size ∧ n = part.length) ∨ ∃ m, ShortEnd size parts m ∧ n = part.length + m := by
  constructor
  · rintro ⟨earlier, found, later, hparts, hshort, rfl⟩
    cases earlier with
    | nil =>
      obtain ⟨rfl, rfl⟩ := List.cons.inj hparts
      exact .inl ⟨hshort, rfl⟩
    | cons first earlier =>
      obtain ⟨rfl, rfl⟩ := List.cons.inj hparts
      exact .inr ⟨_, ⟨earlier, found, later, rfl, hshort, rfl⟩, by simp⟩
  · rintro (⟨hshort, rfl⟩ | ⟨m, ⟨earlier, found, later, rfl, hshort, rfl⟩, rfl⟩)
    · exact ⟨[], part, parts, rfl, hshort, rfl⟩
    · exact ⟨part :: earlier, found, later, rfl, hshort, by simp⟩

lemma ShortEnd.pos (h : ShortEnd size parts n) (hsome : ∀ part ∈ parts, part ≠ []) : 0 < n := by
  obtain ⟨earlier, found, later, rfl, -, rfl⟩ := h
  have hpos := List.length_pos_of_ne_nil (hsome found (by simp))
  rw [List.length_append]
  omega

/-- A first part that ends too early for the other division would be a smaller one of its own. -/
lemma length_le_of_shortEnds (hsize : other.length ≤ size)
    (hends : ∀ n, ShortEnd size (part :: parts) n → ShortEnd size (other :: others) n) :
    other.length ≤ part.length := by
  by_contra hlt
  have hend : ShortEnd size (part :: parts) part.length :=
    shortEnd_cons.mpr (.inl ⟨by omega, rfl⟩)
  rcases shortEnd_cons.mp (hends _ hend) with ⟨-, heq⟩ | ⟨m, -, heq⟩
  · omega
  · omega

/-- Behind a common first part the ends are the same. -/
lemma shortEnd_of_cons (hsome : ∀ part ∈ parts, part ≠ [])
    (hends : ∀ n, ShortEnd size (part :: parts) n → ShortEnd size (part :: others) n)
    (h : ShortEnd size parts n) : ShortEnd size others n := by
  have hend := hends _ (shortEnd_cons.mpr (.inr ⟨n, h, rfl⟩))
  have hpos := h.pos hsome
  rcases shortEnd_cons.mp hend with ⟨-, heq⟩ | ⟨m, hm, heq⟩
  · omega
  · obtain rfl : n = m := by omega
    exact hm

/-- A list is divided into parts of a given size in one way only, but for where the smaller parts
end. -/
lemma eq_of_shortEnds (hparts : ∀ part ∈ parts, part ≠ [] ∧ part.length ≤ size)
    (hothers : ∀ part ∈ others, part ≠ [] ∧ part.length ≤ size)
    (hitems : parts.flatten = others.flatten)
    (hends : ∀ n, ShortEnd size parts n ↔ ShortEnd size others n) : parts = others := by
  induction parts generalizing others with
  | nil =>
    cases others with
    | nil => rfl
    | cons other others =>
      rw [List.flatten_nil, List.flatten_cons, eq_comm, List.append_eq_nil_iff] at hitems
      exact absurd hitems.1 (hothers other List.mem_cons_self).1
  | cons part parts ih =>
    cases others with
    | nil =>
      rw [List.flatten_nil, List.flatten_cons, List.append_eq_nil_iff] at hitems
      exact absurd hitems.1 (hparts part List.mem_cons_self).1
    | cons other others =>
      have hparts' (p : List α) (hmem : p ∈ parts) := hparts p (List.mem_cons_of_mem _ hmem)
      have hothers' (p : List α) (hmem : p ∈ others) := hothers p (List.mem_cons_of_mem _ hmem)
      -- neither first part can end before the other, so they are the same
      have hle := length_le_of_shortEnds (hothers other List.mem_cons_self).2 fun n => (hends n).mp
      have hge := length_le_of_shortEnds (hparts part List.mem_cons_self).2 fun n => (hends n).mpr
      rw [List.flatten_cons, List.flatten_cons] at hitems
      obtain ⟨rfl, hrest⟩ := List.append_inj hitems (by omega)
      rw [ih hparts' hothers' hrest fun n => ?_]
      exact ⟨shortEnd_of_cons (fun p hmem => (hparts' p hmem).1) fun n => (hends n).mp,
        shortEnd_of_cons (fun p hmem => (hothers' p hmem).1) fun n => (hends n).mpr⟩

end

/-! ## Cuts -/

section

variable {config : BatcherConfig} {labels : List (Label α)} {s t : State α} {label : Label α}
  {history before after first rest : List (Event α)} {call n : Nat} {batch : Batch α}

/-- A step forms a batch of all that is pending then, and of what it has pushed before. -/
lemma Move.of_formed (hlocked : Locked s)
    (move : Move s label t (first ++ .formed call batch :: rest)) :
    s.closed = false ∧ formed first = [] ∧ batch.items = s.pending ++ pushed first := by
  generalize hevents : first ++ Event.formed call batch :: rest = events at move
  have hmem : .formed call batch ∈ events := by
    rw [← hevents]
    simp
  cases move with
  | begun request => simp at hmem
  | call at_phase turn =>
    cases turn with
    | @filled phase u items left pushing full =>
      obtain ⟨rfl, rfl⟩ : call = _ ∧ batch = _ := by simpa using hmem
      -- the turn pushes first, and forms the batch then
      rcases first with _ | ⟨event, _ | ⟨event', first⟩⟩
      · simp at hevents
      · obtain ⟨rfl, -⟩ := List.cons.inj hevents
        exact ⟨pushing.isOpen hlocked at_phase, rfl, by
          simp [pushed, Function.comp_def]⟩
      · simp at hevents
    | cut holds isOpen nonempty =>
      obtain ⟨rfl, -⟩ := append_cons_eq_singleton hevents
      obtain ⟨rfl, rfl⟩ := Event.formed.inj (List.mem_singleton.mp hmem)
      exact ⟨isOpen, rfl, by simp [pushed]⟩
    | _ => simp at hmem
  | worker at_point turn => cases turn <;> simp at hmem
  | dispatcher turn => cases turn <;> simp at hmem

/-- When a batch is formed, all items that were pushed so far are in it or in earlier batches; and
its call tells its size. -/
lemma Runs.pushed_of_formed (hvalid : config.validate = .ok ()) (hrun : Runs config labels s history)
    (hhistory : history = before ++ .formed call batch :: after) :
    pushed before = (formed before).flatMap Batch.items ++ batch.items ∧
      ∃ request, .began call request ∈ before ∧
        request.Sizes config.batchSize.toNat batch.items.length := by
  obtain ⟨labels, u, past, label, v, first, rest, hpast, hstep, rfl⟩ := hrun.exists_step hhistory
  have move := State.move_of_step hstep
  have hportioned := hpast.portioned hvalid
  obtain ⟨hopen, hnone, hitems⟩ := move.of_formed hpast.locked
  have hformed : .formed call batch ∈ first ++ .formed call batch :: rest := by simp
  obtain ⟨request, hbegan, hsizes⟩ := move.sized hpast.asked hportioned.short hformed
  rw [hpast.config_eq] at hsizes
  refine ⟨?_, request, List.mem_append_left _ hbegan, hsizes⟩
  rw [pushed_append, hportioned.split, hportioned.discarded_eq_nil hopen, Projection.append, hnone,
    hitems]
  simp

/-- A flush cut a batch when so many items had been pushed. -/
def CutAt (history : List (Event α)) (n : Nat) : Prop :=
  ∃ before call closing batch after, history = before ++ .formed call batch :: after ∧
    .began call (.ofFlush closing) ∈ before ∧ n = (pushed before).length

/-- The batches that are smaller than a full one are those that flushes cut. -/
lemma Runs.cutAt_iff (hvalid : config.validate = .ok ()) (hrun : Runs config labels s history) :
    CutAt history n ↔
      ShortEnd config.batchSize.toNat ((formed history).map Batch.items) n := by
  constructor
  · rintro ⟨before, call, closing, batch, after, hhistory, hflush, rfl⟩
    obtain ⟨hpushed, request, hbegan, hsizes⟩ := hrun.pushed_of_formed hvalid hhistory
    have hshort : batch.items.length < config.batchSize.toNat := by
      have hfirst : .began call request ∈ history := hhistory ▸ List.mem_append_left _ hbegan
      have hsecond : .began call (.ofFlush closing) ∈ history :=
        hhistory ▸ List.mem_append_left _ hflush
      obtain rfl := hrun.asked.began_unique hfirst hsecond
      cases closing <;> exact hsizes.2
    refine ⟨(formed before).map Batch.items, batch.items, (formed after).map Batch.items, ?_,
      hshort, ?_⟩
    · simp [hhistory]
    · rw [hpushed, List.flatMap_def]
  · rintro ⟨earlier, items, later, hparts, hshort, rfl⟩
    have hget : ((formed history).map Batch.items)[earlier.length]? = some items := by
      simp [hparts]
    rw [List.getElem?_map] at hget
    obtain ⟨batch, hbatch, rfl⟩ := Option.map_eq_some_iff.mp hget
    have hone (event : Event α) : event.batchFormed.length ≤ 1 := by
      cases event <;> simp
    obtain ⟨before, event, after, rfl, hevent, hlength⟩ := Projection.exists_event hone hbatch
    cases event with
    | formed call batch' =>
      obtain rfl := List.singleton_inj.mp hevent
      obtain ⟨hpushed, request, hbegan, hsizes⟩ := hrun.pushed_of_formed hvalid rfl
      have hearlier : (formed before).map Batch.items = earlier := by
        rw [Projection.append, List.map_append] at hparts
        exact List.append_inj_left hparts (by rw [List.length_map]; exact hlength)
      -- a call that pushes items forms full batches only
      obtain ⟨closing, rfl⟩ : ∃ closing, request = .ofFlush closing := by
        cases request with
        | enqueue items => exact absurd hsizes (Nat.ne_of_lt hshort)
        | flush => exact ⟨false, rfl⟩
        | shutdown => exact ⟨true, rfl⟩
      refine ⟨before, call, closing, batch', after, rfl, hbegan, ?_⟩
      rw [hpushed, List.flatMap_def, hearlier]
    | _ => cases hevent

/-- No batch is empty or larger than a full one. -/
lemma Runs.parts_sized (hvalid : config.validate = .ok ()) (hrun : Runs config labels s history) :
    ∀ part ∈ (formed history).map Batch.items,
      part ≠ [] ∧ part.length ≤ config.batchSize.toNat := by
  intro part hpart
  obtain ⟨batch, hbatch, rfl⟩ := List.mem_map.mp hpart
  refine ⟨hrun.items_ne_nil hvalid hbatch, ?_⟩
  obtain ⟨call, hcall⟩ := mem_formed.mp hbatch
  obtain ⟨request, -, hsizes⟩ := hrun.sized hvalid hcall
  cases request with
  | enqueue items => exact Nat.le_of_eq hsizes
  | flush | shutdown => exact Nat.le_of_lt hsizes.2

/-- The batches are numbered, so that they are settled by their items. -/
lemma Runs.formed_eq_of_items {config' : BatcherConfig} {labels' : List (Label α)} {t : State α}
    {history' : List (Event α)} (hrun : Runs config labels s history)
    (hrun' : Runs config' labels' t history')
    (hitems : (formed history').map Batch.items = (formed history).map Batch.items) :
    formed history' = formed history := by
  have hlength := congrArg List.length hitems
  have hnumbered := hrun.balanced.numbered
  have hnumbered' := hrun'.balanced.numbered
  have hsame : t.nextSequence = s.nextSequence := by
    have hall := congrArg List.length hnumbered
    have hall' := congrArg List.length hnumbered'
    simp only [numbers, List.length_map, List.length_range] at hall hall' hlength
    omega
  have hnumbers : (formed history').map Batch.sequence = (formed history).map Batch.sequence := by
    rw [numbers] at hnumbered hnumbered'
    rw [hnumbered, hnumbered', hsame]
  have hinjective : Function.Injective fun batch : Batch α => (batch.sequence, batch.items) := by
    rintro ⟨number, items⟩ ⟨number', items'⟩ heq
    obtain ⟨rfl, rfl⟩ := Prod.mk.inj heq
    rfl
  apply List.map_injective_iff.mpr hinjective
  show List.map _ (formed history') = List.map _ (formed history)
  rw [← List.zip_map', ← List.zip_map', hnumbers, hitems]

end

/-! ## Deliveries -/

/-- Every item that was pushed is in a batch, and every batch has been called back. -/
structure Completed (history : List (Event α)) : Prop where
  items_eq : pushed history = (formed history).flatMap Batch.items
  delivered : ∀ batch ∈ formed history, Delivered batch history

/-- The result that was called back under a number, if any. -/
def deliveries (history : List (Event α)) (number : Nat) : Option BatchResult :=
  (called history).find? (·.sequence == number)

section

variable {config : BatcherConfig} {labels : List (Label α)} {s : State α}
  {history : List (Event α)} {answer : Batch α → Nat → Reply} {number : Nat}

/-- Under the number of a batch its own result is delivered. -/
lemma Runs.deliveries_of_formed (hvalid : config.validate = .ok ())
    (hrun : Runs config labels s history) (hanswered : AnsweredBy answer history)
    (hcompleted : Completed history) {batch : Batch α} (hbatch : batch ∈ formed history) :
    deliveries history batch.sequence = some (alone config.retry answer batch) := by
  obtain ⟨first, hfirst, -, hsame⟩ := hcompleted.delivered batch hbatch
  have hsome : (deliveries history batch.sequence).isSome := by
    rw [deliveries, List.find?_isSome]
    exact ⟨first, mem_called.mpr hfirst, by simp [hsame]⟩
  obtain ⟨result, hdelivered⟩ := Option.isSome_iff_exists.mp hsome
  have hcalled := List.mem_of_find?_eq_some hdelivered
  obtain ⟨batch', hbatch', hsequence, hresult⟩ :=
    hrun.result_of_answered hvalid hanswered (mem_called.mp hcalled)
  have hnumber : result.sequence = batch.sequence := by simpa using List.find?_some hdelivered
  obtain rfl := hrun.balanced.batch_unique hbatch' hbatch (hsequence.symm.trans hnumber)
  rw [hdelivered, hresult]

/-- The batches settle what is delivered under which number. -/
lemma Runs.deliveries_eq (hvalid : config.validate = .ok ()) (hrun : Runs config labels s history)
    (hanswered : AnsweredBy answer history) (hcompleted : Completed history) (number : Nat) :
    deliveries history number =
      ((formed history).find? (·.sequence == number)).map (alone config.retry answer) := by
  cases hfind : (formed history).find? (·.sequence == number) with
  | none =>
    apply List.find?_eq_none.mpr
    intro result hmem hnumber
    obtain ⟨batch, hbatch, hsequence, -⟩ :=
      hrun.result_of_answered hvalid hanswered (mem_called.mp hmem)
    exact List.find?_eq_none.mp hfind batch hbatch (hsequence ▸ hnumber)
  | some batch =>
    obtain rfl : batch.sequence = number := by simpa using List.find?_some hfind
    exact hrun.deliveries_of_formed hvalid hanswered hcompleted (List.mem_of_find?_eq_some hfind)

/-- **Pooling.** Whatever is called back is the result that the batch with its number has when it is
executed on its own, and a run that delivers everything delivers just these results. So runs with the
same items, cuts and answers deliver the same results under the same numbers, whatever the number of
workers and the order of their steps. -/
theorem Runs.pooled (hvalid : config.validate = .ok ()) (hrun : Runs config labels s history)
    (hanswered : AnsweredBy answer history) (hcompleted : Completed history) :
    (∀ result, .called result ∈ history → ∃ batch ∈ formed history,
      result.sequence = batch.sequence ∧ result = alone config.retry answer batch) ∧
    (∀ batch ∈ formed history,
      deliveries history batch.sequence = some (alone config.retry answer batch)) ∧
    ∀ (config' : BatcherConfig) (labels' : List (Label α)) (t : State α)
      (history' : List (Event α)), config'.validate = .ok () →
        config'.batchSize = config.batchSize → config'.retry = config.retry →
        Runs config' labels' t history' → AnsweredBy answer history' → Completed history' →
        pushed history' = pushed history → (∀ n, CutAt history' n ↔ CutAt history n) →
          deliveries history' = deliveries history := by
  refine ⟨fun result => hrun.result_of_answered hvalid hanswered,
    fun batch => hrun.deliveries_of_formed hvalid hanswered hcompleted, ?_⟩
  intro config' labels' t history' hvalid' hsize hretry hrun' hanswered' hcompleted' hpushed hcuts
  have hends (n : Nat) :
      ShortEnd config.batchSize.toNat ((formed history').map Batch.items) n ↔
        ShortEnd config.batchSize.toNat ((formed history).map Batch.items) n := by
    rw [← hrun.cutAt_iff hvalid, ← hcuts, hrun'.cutAt_iff hvalid', hsize]
  have hitems : ((formed history').map Batch.items).flatten =
      ((formed history).map Batch.items).flatten := by
    rw [← List.flatMap_def, ← List.flatMap_def, ← hcompleted'.items_eq, hpushed,
      hcompleted.items_eq]
  have hparts := eq_of_shortEnds (hsize ▸ hrun'.parts_sized hvalid') (hrun.parts_sized hvalid)
    hitems hends
  funext number
  rw [hrun'.deliveries_eq hvalid' hanswered' hcompleted',
    hrun.deliveries_eq hvalid hanswered hcompleted, hrun.formed_eq_of_items hrun' hparts, hretry]

end

/-! One worker that tries a batch again before it comes to the next one, and two workers of which the
second one is done first. -/

def singleConfig : BatcherConfig :=
  { batchSize := 2, poolSize := 1, retry := ⟨.ofMillis 100, 1, 0⟩ }

def doubleConfig : BatcherConfig := { singleConfig with poolSize := 2 }

/-- The first batch is not accepted at once. -/
def hesitant : Batch Nat → Nat → Reply
  | ⟨0, _⟩, 1 => .error (.connect "connection refused")
  | ⟨_, items⟩, _ => .ok (items.map fun _ => .success "stored")

def singleLabels : List (Label Nat) :=
  [.begin (.enqueue [10, 11, 12]), .advance 0, .advance 0, .take 0, .begin .flush, .advance 1,
    .advance 1, .reply 0 (hesitant ⟨0, [10, 11]⟩ 1), .resume 0,
    .reply 0 (hesitant ⟨0, [10, 11]⟩ 2), .take 0, .reply 0 (hesitant ⟨1, [12]⟩ 1), .receive,
    .finish, .receive, .finish, .advance 1]

def doubleLabels : List (Label Nat) :=
  [.begin (.enqueue [10, 11]), .begin (.enqueue [12]), .advance 0, .advance 0, .advance 1,
    .begin .flush, .advance 2, .advance 2, .take 1, .take 0, .reply 0 (hesitant ⟨1, [12]⟩ 1),
    .reply 1 (hesitant ⟨0, [10, 11]⟩ 1), .receive, .finish, .resume 1,
    .reply 1 (hesitant ⟨0, [10, 11]⟩ 2), .receive, .finish, .advance 2]

def firstResult : BatchResult :=
  ⟨0, [.success "stored", .success "stored"], none,
    { attempts := 2, connectionRetries := 1, waited := .ofMillis 100 }⟩

def secondResult : BatchResult := ⟨1, [.success "stored"], none, { attempts := 1 }⟩

def answered (worker : Nat) (batch : Batch Nat) (n : Nat) : List (Event Nat) :=
  [.replied worker batch (hesitant batch n)]

def singleHistory : List (Event Nat) :=
  ([.began 0 (.enqueue [10, 11, 12]), .pushed 0 [10, 11], .formed 0 ⟨0, [10, 11]⟩, .pushed 0 [12],
    .returned 0 (.ok ()), .taken 0 ⟨0, [10, 11]⟩, .submitted 0 ⟨0, [10, 11]⟩, .began 1 .flush,
    .formed 1 ⟨1, [12]⟩] : List (Event Nat)) ++ answered 0 ⟨0, [10, 11]⟩ 1 ++
  ([.submitted 0 ⟨0, [10, 11]⟩] : List (Event Nat)) ++ answered 0 ⟨0, [10, 11]⟩ 2 ++
  ([.taken 0 ⟨1, [12]⟩, .submitted 0 ⟨1, [12]⟩] : List (Event Nat)) ++ answered 0 ⟨1, [12]⟩ 1 ++
  ([.called firstResult, .finished firstResult, .called secondResult, .finished secondResult,
    .flushed 1 (.ok ()), .returned 1 (.ok ())] : List (Event Nat))

def doubleHistory : List (Event Nat) :=
  ([.began 0 (.enqueue [10, 11]), .began 1 (.enqueue [12]), .pushed 0 [10, 11],
    .formed 0 ⟨0, [10, 11]⟩, .pushed 0 [], .returned 0 (.ok ()), .pushed 1 [12],
    .returned 1 (.ok ()), .began 2 .flush, .formed 2 ⟨1, [12]⟩, .taken 1 ⟨0, [10, 11]⟩,
    .submitted 1 ⟨0, [10, 11]⟩, .taken 0 ⟨1, [12]⟩, .submitted 0 ⟨1, [12]⟩] : List (Event Nat)) ++
  answered 0 ⟨1, [12]⟩ 1 ++ answered 1 ⟨0, [10, 11]⟩ 1 ++
  ([.called secondResult, .finished secondResult, .submitted 1 ⟨0, [10, 11]⟩] :
    List (Event Nat)) ++ answered 1 ⟨0, [10, 11]⟩ 2 ++
  ([.called firstResult, .finished firstResult, .flushed 2 (.ok ()), .returned 2 (.ok ())] :
    List (Event Nat))

lemma answered_single : AnsweredBy hesitant singleHistory := by
  refine .append (.concat (.append (.concat (.append (.concat (.append .nil ?_) rfl) ?_) rfl) ?_)
    rfl) ?_ <;> simp

lemma answered_double : AnsweredBy hesitant doubleHistory := by
  refine .append (.concat (.append (.concat (.concat (.append .nil ?_) rfl) rfl) ?_) rfl) ?_ <;>
  simp

theorem pooled_hesitant :
    ∃ s t, singleConfig.validate = .ok () ∧ Runs singleConfig singleLabels s singleHistory ∧
      AnsweredBy hesitant singleHistory ∧ Completed singleHistory ∧
      Runs doubleConfig doubleLabels t doubleHistory ∧ AnsweredBy hesitant doubleHistory ∧
      Completed doubleHistory ∧ called doubleHistory ≠ called singleHistory ∧
      deliveries doubleHistory = deliveries singleHistory ∧
      deliveries singleHistory 0 = some (alone singleConfig.retry hesitant ⟨0, [10, 11]⟩) := by
  have hsingle : Runs singleConfig singleLabels _ singleHistory := Runs.of_run rfl
  have hdouble : Runs doubleConfig doubleLabels _ doubleHistory := Runs.of_run rfl
  have hcompleted : Completed singleHistory :=
    ⟨rfl, fun batch => hsingle.delivered_of_idle rfl rfl⟩
  have hcompleted' : Completed doubleHistory :=
    ⟨rfl, fun batch => hdouble.delivered_of_idle rfl rfl⟩
  obtain ⟨-, hown, hothers⟩ := Runs.pooled rfl hsingle answered_single hcompleted
  have hcuts (n : Nat) : CutAt doubleHistory n ↔ CutAt singleHistory n := by
    rw [hdouble.cutAt_iff rfl, hsingle.cutAt_iff rfl]
    rfl
  have hsame := hothers doubleConfig doubleLabels _ doubleHistory rfl rfl rfl hdouble
    answered_double hcompleted' rfl hcuts
  refine ⟨_, _, rfl, hsingle, answered_single, hcompleted, hdouble, answered_double, hcompleted', ?_,
    hsame, hown ⟨0, [10, 11]⟩ List.mem_cons_self⟩
  -- the results come in another order
  intro horder
  have hfirst : secondResult = firstResult := (List.cons.inj horder).1
  cases congrArg BatchResult.sequence hfirst

end BulkWrite.Batcher
