import Mathlib.Algebra.BigOperators.Group.List.Basic
import Mathlib.Algebra.Group.Action.Defs
import BulkWrite.Proofs.Batcher.Cut
import BulkWrite.Proofs.Batcher.Order

/-!
# How batches are formed

Main statement: as long as a batcher is open, the batches formed so far are numbered 0, 1, 2, …, and
their items followed by the pending ones are the items that were pushed, in their order; the items of
a call stand together; calls that enqueue form full batches and flushes smaller ones; less than a
batch is pending; and workers take batches in order (`Runs.formation`). So `n` items that completed
calls enqueued and one flush give `⌈n / batchSize⌉` batches (`Runs.length_formed_eq`).
-/

namespace BulkWrite.Batcher

open History

variable {α : Type} {config : BatcherConfig} {labels : List (Label α)} {s : State α}
  {history before after : List (Event α)} {call : Nat} {request : Request α}

/-- What a call has pushed are the first ones of its items. -/
lemma Runs.pushedBy_prefix (hrun : Runs config labels s history) {items : List α}
    (hbegan : .began call (.enqueue items) ∈ history) : pushedBy call history <+: items := by
  have hlt := hrun.asked.caller_lt hbegan rfl
  have hserves := hrun.serves hbegan (List.getElem?_eq_getElem hlt)
  generalize s.calls[call] = phase at hserves
  cases phase with
  | queued task =>
    cases task with
    | enqueue items =>
      rw [hserves.2]
      exact List.nil_prefix
    | flush closing => cases closing <;> cases hserves.1
    | close => cases hserves.1
  | sending batch rest =>
    cases rest with
    | enqueue rest =>
      obtain rfl := Request.enqueue.inj hserves
      exact List.prefix_append _ _
    | flush closing => cases closing <;> cases hserves.1
  | draining outcome closing parked woken => cases closing <;> cases hserves.1
  | collecting | joining => cases hserves.1
  | returned outcome => exact hserves.1
  | dropped => exact hserves

/-! ## One flush after all -/

/-- A call began in a state, which a shorter run gives. -/
lemma Runs.before_began (hrun : Runs config labels s history)
    (hhistory : history = before ++ .began call request :: after) :
    ∃ (labels : List (Label α)) (u : State α), Runs config labels u before := by
  obtain ⟨labels, u, past, label, v, first, rest, hpast, hstep, rfl⟩ := hrun.exists_step hhistory
  have hbegan : .began call request ∈ first ++ .began call request :: rest := by simp
  have hevents := ((State.move_of_step hstep).began_eq hbegan).2
  obtain ⟨rfl, -⟩ := append_cons_eq_singleton hevents
  rw [List.append_nil]
  exact ⟨labels, u, hpast⟩

/-- Calls enqueued all their items, and then one flush began and returned. -/
structure FlushedOnce (before : List (Event α)) (call : Nat) (after : List (Event α)) : Prop where
  enqueued {other : Nat} {request : Request α} : .began other request ∈ before →
    ∃ items, request = .enqueue items ∧ .returned other (.ok ()) ∈ before
  alone {other : Nat} {request : Request α} : .began other request ∉ after
  returned : ∃ outcome, .returned call outcome ∈ after

lemma pushes_eq_nil (h : ∀ call, pushedBy call history = []) : pushes history = [] := by
  apply List.eq_nil_iff_forall_not_mem.mpr
  intro entry hentry
  have hnone := h entry.1
  rw [pushedBy_eq, List.map_eq_nil_iff, List.filter_eq_nil_iff] at hnone
  exact hnone entry hentry (beq_self_eq_true _)

/-- While and after the flush nothing is pushed. -/
lemma FlushedOnce.pushes_eq_nil (h : FlushedOnce before call after)
    (hrun : Runs config labels s history)
    (hhistory : history = before ++ .began call .flush :: after) : pushes after = [] := by
  obtain ⟨earlier, u, hbefore⟩ := hrun.before_began hhistory
  obtain ⟨outcome, hover⟩ := h.returned
  apply Batcher.pushes_eq_nil
  intro other
  have hsplit : pushedBy other history = pushedBy other before ++ pushedBy other after := by
    rw [hhistory, Projection.append, Projection.cons]
    rfl
  -- a call from before has pushed all its items then, the flush pushes none, and there is no other
  rcases Nat.lt_or_ge other s.calls.length with hlt | hge
  · obtain ⟨request, hbegan, hserves⟩ := hrun.asked.serves (List.getElem?_eq_getElem hlt)
    rcases List.mem_append.mp (hhistory ▸ hbegan) with hmem | hmem
    · obtain ⟨items, rfl, hreturned⟩ := h.enqueued hmem
      have hthen := hbefore.pushedBy_of_returned hmem hreturned
      have hnow := hrun.pushedBy_of_returned hbegan
        (hhistory ▸ List.mem_append_left _ hreturned)
      rw [hsplit, hthen] at hnow
      exact List.append_right_eq_self.mp hnow
    · obtain ⟨rfl, rfl⟩ : other = call ∧ request = .flush := by
        rcases List.mem_cons.mp hmem with heq | hmem
        · simpa using heq
        · exact absurd hmem h.alone
      have hreturned : .returned other outcome ∈ history := hhistory ▸ by simp [hover]
      have hnone : pushedBy other history = [] :=
        hrun.serves hbegan (hrun.asked.phase_of_returned hreturned)
      rw [hsplit] at hnone
      exact (List.append_eq_nil_iff.mp hnone).2
  · have hnone := pushedBy_of_caller fun event hevent hcaller =>
      Nat.not_lt_of_ge hge (hrun.asked.caller_lt hevent hcaller)
    rw [hsplit] at hnone
    exact (List.append_eq_nil_iff.mp hnone).2

/-- The flush leaves nothing pending. -/
lemma FlushedOnce.pending_eq_nil (h : FlushedOnce before call after)
    (hrun : Runs config labels s history)
    (hhistory : history = before ++ .began call .flush :: after) : s.pending = [] := by
  obtain ⟨outcome, hover⟩ := h.returned
  have hreturned : .returned call outcome ∈ history := hhistory ▸ by simp [hover]
  have hphase := hrun.asked.phase_of_returned hreturned
  have hsuffix := hrun.pending_suffix hhistory hphase (by simp [Phase.HasCut])
  have hnone : pushed after = [] := by
    rw [pushed, h.pushes_eq_nil hrun hhistory, List.map_nil]
  rwa [hnone, List.suffix_nil] at hsuffix

/-- The items of full batches. -/
lemma length_items_of_full {size : Nat} {batches : List (Batch α)}
    (h : ∀ batch ∈ batches, batch.items.length = size) :
    (batches.flatMap Batch.items).length = batches.length * size := by
  have hsizes : ∀ size' ∈ batches.map fun batch => batch.items.length, size' = size := by
    intro size' hmem
    obtain ⟨batch, hbatch, rfl⟩ := List.mem_map.mp hmem
    exact h batch hbatch
  rw [List.length_flatMap, List.sum_eq_card_nsmul _ _ hsizes, List.length_map, smul_eq_mul]

/-- Where one call has formed all batches, all batches are its own. -/
lemma formed_eq_formedBy (h : ∀ other batch, .formed other batch ∈ history → other = call) :
    formed history = formedBy call history := by
  induction history with
  | nil => rfl
  | cons event history ih =>
    have hrest := ih fun other batch hmem => h other batch (List.mem_cons_of_mem _ hmem)
    rw [Projection.cons, Projection.cons, hrest]
    cases event with
    | formed other batch =>
      have heq := h other batch List.mem_cons_self
      simp [heq]
    | _ => rfl

/-- The batches of the calls before the flush are full. -/
lemma FlushedOnce.full (h : FlushedOnce before call after) (hvalid : config.validate = .ok ())
    (hrun : Runs config labels s history)
    (hhistory : history = before ++ .began call .flush :: after) {batch : Batch α}
    (hbatch : batch ∈ formed before) : batch.items.length = config.batchSize.toNat := by
  obtain ⟨earlier, u, hbefore⟩ := hrun.before_began hhistory
  obtain ⟨other, hformed⟩ := mem_formed.mp hbatch
  obtain ⟨request, hbegan, hsizes⟩ := hbefore.sized hvalid hformed
  obtain ⟨items, rfl, -⟩ := h.enqueued hbegan
  exact hsizes

/-- The items that are not in those batches are too few for another full one, and the flush puts
them into batches. -/
lemma FlushedOnce.exists_left (h : FlushedOnce before call after)
    (hvalid : config.validate = .ok ()) (hrun : Runs config labels s history)
    (hopen : s.closed = false) (hhistory : history = before ++ .began call .flush :: after) :
    ∃ left, left.length < config.batchSize.toNat ∧ (formed after).flatMap Batch.items = left ∧
      pushed history = (formed before).flatMap Batch.items ++ left := by
  obtain ⟨earlier, u, hbefore⟩ := hrun.before_began hhistory
  have hthen := hbefore.portioned hvalid
  have hnow := hrun.portioned hvalid
  have hkept := hnow.discarded_eq_nil hopen
  have hkeptBefore : discarded before = [] := by
    rw [hhistory, Projection.append, List.append_eq_nil_iff] at hkept
    exact hkept.1
  have hpushed : pushed history = (formed before).flatMap Batch.items ++ u.pending := by
    rw [hhistory, pushed_append, hthen.split, hkeptBefore]
    simp [pushed, h.pushes_eq_nil hrun hhistory]
  refine ⟨u.pending, hbefore.short hvalid, ?_, hpushed⟩
  have hsplit := hnow.split
  rw [hpushed, hkept, h.pending_eq_nil hrun hhistory, hhistory, Projection.append,
    Projection.cons] at hsplit
  simpa using hsplit.symm

/-- The flush forms the only batch that is formed since it began, if any. -/
lemma FlushedOnce.length_formed_le (h : FlushedOnce before call after)
    (hvalid : config.validate = .ok ()) (hrun : Runs config labels s history)
    (hopen : s.closed = false) (hhistory : history = before ++ .began call .flush :: after) :
    (formed after).length ≤ 1 := by
  obtain ⟨left, hshort, hleft, -⟩ := h.exists_left hvalid hrun hopen hhistory
  -- whoever else formed a batch since then would have cut a full one
  have hown (other : Nat) (batch : Batch α) (hformed : .formed other batch ∈ after) :
      other = call := by
    have hmem : .formed other batch ∈ history := hhistory ▸ by simp [hformed]
    obtain ⟨request, hbegan, hsizes⟩ := hrun.sized hvalid hmem
    rcases List.mem_append.mp (hhistory ▸ hbegan) with hmem | hmem
    · -- a full batch does not fit into what was left
      obtain ⟨items, rfl, -⟩ := h.enqueued hmem
      have hfits : batch.items.length ≤ left.length := by
        obtain ⟨some, more, heq⟩ := List.append_of_mem (mem_formed.mpr ⟨other, hformed⟩)
        rw [← hleft, heq]
        simp only [List.flatMap_append, List.flatMap_cons, List.length_append]
        omega
      have hsize : batch.items.length = config.batchSize.toNat := hsizes
      omega
    · rcases List.mem_cons.mp hmem with heq | hmem
      · exact (Event.began.inj heq).1
      · exact absurd hmem h.alone
  obtain ⟨outcome, hover⟩ := h.returned
  have hbegan : .began call .flush ∈ history := hhistory ▸ by simp
  have hreturned : .returned call outcome ∈ history := hhistory ▸ by simp [hover]
  have hphase := hrun.asked.phase_of_returned hreturned
  have honce := hrun.length_formedBy_le hbegan (by simp) hphase
  rw [hhistory, Projection.append, Projection.cons, ← formed_eq_formedBy hown] at honce
  simp only [List.length_append] at honce
  omega

/-- Calls that enqueued `n` items and one flush give `⌈n / batchSize⌉` batches. -/
theorem Runs.length_formed_eq (hvalid : config.validate = .ok ())
    (hrun : Runs config labels s history) (hopen : s.closed = false)
    (hhistory : history = before ++ .began call .flush :: after)
    (h : FlushedOnce before call after) :
    (formed history).length =
      ((pushed history).length + config.batchSize.toNat - 1) / config.batchSize.toNat := by
  obtain ⟨left, hshort, hleft, hpushed⟩ := h.exists_left hvalid hrun hopen hhistory
  have honce := h.length_formed_le hvalid hrun hopen hhistory
  have hlength : (formed history).length = (formed before).length + (formed after).length := by
    rw [hhistory, Projection.append, Projection.cons, List.length_append, List.length_append]
    simp
  rw [hlength, hpushed, List.length_append,
    length_items_of_full fun batch => h.full hvalid hrun hhistory]
  symm
  -- either nothing was left for the flush, or it formed one batch that is not full
  cases hformed : formed after with
  | nil =>
    have hnone : left.length = 0 := by
      rw [← hleft, hformed]
      rfl
    rw [List.length_nil, Nat.add_zero]
    apply Nat.div_eq_of_lt_le
    · omega
    · rw [Nat.add_mul]
      omega
  | cons batch batches =>
    obtain rfl : batches = [] := by
      rw [hformed, List.length_cons] at honce
      exact List.length_eq_zero_iff.mp (by omega)
    have hsome : 0 < left.length := by
      obtain ⟨other, hmem⟩ := mem_formed.mp (hformed ▸ List.mem_cons_self : batch ∈ formed after)
      have hmem : .formed other batch ∈ history := hhistory ▸ by simp [hmem]
      obtain ⟨request, -, hsizes⟩ := hrun.sized hvalid hmem
      rw [← hleft, hformed]
      have hpos := hsizes.pos (BatcherConfig.sizes_pos hvalid).1
      simpa using hpos
    rw [List.length_singleton]
    apply Nat.div_eq_of_lt_le
    · rw [Nat.add_mul]
      omega
    · rw [Nat.add_mul, Nat.add_mul]
      omega

/-! ## All together -/

/-- As long as a batcher is open, no item is lost, doubled or moved. -/
theorem Runs.formation (hvalid : config.validate = .ok ()) (hrun : Runs config labels s history)
    (hopen : s.closed = false) :
    numbers history = List.range s.nextSequence ∧
    (formed history).flatMap Batch.items ++ s.pending = pushed history ∧
    (∀ call, ∃ before after,
      pushes history = before ++ (pushedBy call history).map (call, ·) ++ after ∧
        ∀ entry ∈ before ++ after, entry.1 ≠ call) ∧
    (∀ call items, .began call (.enqueue items) ∈ history →
      pushedBy call history <+: items ∧
        (.returned call (.ok ()) ∈ history → pushedBy call history = items)) ∧
    (∀ call batch, .formed call batch ∈ history →
      ∃ request, .began call request ∈ history ∧
        request.Sizes config.batchSize.toNat batch.items.length) ∧
    s.pending.length < config.batchSize.toNat ∧
    (taken history).Sublist (formed history) ∧
    ((taken history).map Batch.sequence).Pairwise (· < ·) ∧
    (∀ before call after, history = before ++ .began call .flush :: after →
      FlushedOnce before call after →
        (formed history).length =
          ((pushed history).length + config.batchSize.toNat - 1) / config.batchSize.toNat) := by
  have hportioned := hrun.portioned hvalid
  have hsplit := hportioned.split
  rw [hportioned.discarded_eq_nil hopen, List.append_nil] at hsplit
  refine ⟨hrun.balanced.numbered, hsplit.symm, hrun.grouped.together, ?_, ?_, hrun.short hvalid,
    hrun.taken_sublist, hrun.taken_lt, ?_⟩
  · exact fun call items hbegan => ⟨hrun.pushedBy_prefix hbegan, hrun.pushedBy_of_returned hbegan⟩
  · exact fun call batch hformed => hrun.sized hvalid hformed
  · exact fun before call after hhistory h => hrun.length_formed_eq hvalid hopen hhistory h

/-! Three items from two calls, and one flush. -/

def formationLabels : List (Label Nat) :=
  [.begin (.enqueue [10]), .advance 0, .begin (.enqueue [11, 12]), .advance 1, .advance 1,
    .begin .flush, .advance 2, .take 0, .advance 2, .reply 0 (.ok [.success "a", .success "b"]),
    .receive, .finish, .take 0, .reply 0 (.ok [.success "c"]), .receive, .finish, .advance 2]

def formationBefore : List (Event Nat) :=
  [.began 0 (.enqueue [10]), .pushed 0 [10], .returned 0 (.ok ()), .began 1 (.enqueue [11, 12]),
    .pushed 1 [11], .formed 1 ⟨0, [10, 11]⟩, .pushed 1 [12], .returned 1 (.ok ())]

def formationAfter : List (Event Nat) :=
  let first : BatchResult := ⟨0, [.success "a", .success "b"], none, { attempts := 1 }⟩
  let second : BatchResult := ⟨1, [.success "c"], none, { attempts := 1 }⟩
  [.formed 2 ⟨1, [12]⟩, .taken 0 ⟨0, [10, 11]⟩, .submitted 0 ⟨0, [10, 11]⟩,
    .replied 0 ⟨0, [10, 11]⟩ (.ok first.items), .called first, .finished first,
    .taken 0 ⟨1, [12]⟩, .submitted 0 ⟨1, [12]⟩, .replied 0 ⟨1, [12]⟩ (.ok second.items),
    .called second, .finished second, .flushed 2 (.ok ()), .returned 2 (.ok ())]

theorem formation_small :
    ∃ s, BatcherConfig.small.validate = .ok () ∧
      Runs .small formationLabels s (formationBefore ++ .began 2 .flush :: formationAfter) ∧
      s.closed = false ∧ FlushedOnce formationBefore 2 formationAfter ∧
      (formed (formationBefore ++ .began 2 .flush :: formationAfter)).length = (3 + 2 - 1) / 2 := by
  have hrun : Runs .small formationLabels _
      (formationBefore ++ .began 2 .flush :: formationAfter) := Runs.of_run rfl
  have hflushed : FlushedOnce formationBefore 2 formationAfter := by
    refine ⟨?_, ?_, ?_⟩
    · intro other request hmem
      simp only [formationBefore, List.mem_cons, Event.began.injEq, List.not_mem_nil, reduceCtorEq,
        false_or, or_false] at hmem
      rcases hmem with ⟨rfl, rfl⟩ | ⟨rfl, rfl⟩ <;> simp [formationBefore]
    · simp [formationAfter]
    · simp [formationAfter]
  have h := Runs.formation rfl hrun rfl
  exact ⟨_, rfl, hrun, rfl, hflushed, h.2.2.2.2.2.2.2.2 _ _ _ rfl hflushed⟩

end BulkWrite.Batcher
