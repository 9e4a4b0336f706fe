import BulkWrite.Proofs.Batcher.Pool
import BulkWrite.Proofs.Config.Fallback

/-!
# What a start sets aside

A start that has checked its sizes makes four demands on the platform, one after the other: places
of the queue, a word that counts the tasks, the bytes of their handles, and the bytes of the items
of a full batch. The check asks only that neither size is zero, and a demand that is not met breaks
the start down. The handles are what bounds the workers, by

`allocationBound / taskBytes - 1`

of them (`mostWorkers`): the queue has places for more, and the word is never too short. Main
statement: how a start ends, for all sizes (`start_outcome`). So there are valid sizes with which no
batcher starts (`not_always_started`).
-/

namespace BulkWrite.BatcherConfig

/-! ## Demands -/

/-- So much is asked of the platform, and there is so much of it. -/
structure Demand where
  amount : Nat
  bound : Nat

/-- The platform has what is asked. -/
def Demand.IsMet (d : Demand) : Prop := d.amount ≤ d.bound

/-- What a start asks for, an item taking so many bytes: the places of the queue, the number of the
tasks, the dispatcher being one of them, the bytes of their handles, and those of a full batch. -/
def demands (c : BatcherConfig) (itemBytes : Nat) : List Demand :=
  [⟨c.poolSize.toNat, queueBound⟩, ⟨c.poolSize.toNat + 1, UInt64.size - 1⟩,
    ⟨(c.poolSize.toNat + 1) * taskBytes, allocationBound⟩,
    ⟨c.batchSize.toNat * itemBytes, allocationBound⟩]

/-- The most workers whose handles, and that of the dispatcher, can be set aside. -/
def mostWorkers : Nat := allocationBound / taskBytes - 1

variable {c : BatcherConfig} {itemBytes : Nat}

/-- Of the three demands for the workers, that for their handles decides. -/
lemma isMet_demands_iff : (∀ d ∈ c.demands itemBytes, d.IsMet) ↔
    c.poolSize.toNat ≤ mostWorkers ∧ c.batchSize.toNat * itemBytes ≤ allocationBound := by
  rw [demands, List.forall_mem_cons, List.forall_mem_cons, List.forall_mem_cons,
    List.forall_mem_singleton]
  simp only [Demand.IsMet, mostWorkers, queueBound, allocationBound, taskBytes, UInt64.size]
  omega

/-- The sizes can be set aside if every demand is met; the word that counts the tasks needs no
check of its own. -/
lemma fits_iff : c.fits itemBytes = true ↔ ∀ d ∈ c.demands itemBytes, d.IsMet := by
  rw [isMet_demands_iff, fits, Bool.and_eq_true, Bool.and_eq_true, decide_eq_true_iff,
    decide_eq_true_iff, decide_eq_true_iff]
  simp only [mostWorkers, queueBound, allocationBound, taskBytes]
  omega

/-! ## The check -/

/-- Sizes that are refused are no valid input. -/
lemma invalidInput_of_validate {e : Error} (h : c.validate = .error e) :
    ∃ message, e = .invalidInput message := by
  unfold validate BatchingConfig.validate at h
  split at h
  · exact ⟨_, (Except.error.inj h).symm⟩
  · split at h
    · exact ⟨_, (Except.error.inj h).symm⟩
    · cases h

/-- The sizes of a configuration that was accepted are valid. -/
lemma validate_ofConfig {config : Config} (h : config.validate = .ok ()) :
    (ofConfig config.batching config.retry).validate = .ok () :=
  BatchingConfig.validate_eq_ok_iff.mpr (Config.validate_eq_ok_iff.mp h).2.2

/-! ## How a start ends -/

lemma start_of_error {e : Error} (h : c.validate = .error e) :
    c.start itemBytes = .refused e := by
  rw [start, h]

lemma start_of_ok (h : c.validate = .ok ()) :
    c.start itemBytes = if c.fits itemBytes then .running else .crashed := by
  rw [start, h]

/-- A start is refused with the error of the check. -/
lemma start_eq_refused_iff {e : Error} :
    c.start itemBytes = .refused e ↔ c.validate = .error e := by
  cases hvalid : c.validate with
  | error e' =>
    rw [start_of_error hvalid]
    simp
  | ok u =>
    rw [start_of_ok hvalid]
    cases c.fits itemBytes <;> simp

lemma start_eq_running_iff : c.start itemBytes = .running ↔
    c.validate = .ok () ∧ ∀ d ∈ c.demands itemBytes, d.IsMet := by
  rw [← fits_iff]
  cases hvalid : c.validate with
  | error e =>
    rw [start_of_error hvalid]
    simp
  | ok u =>
    rw [start_of_ok hvalid]
    cases c.fits itemBytes <;> simp

/-- Valid sizes break the start down if a demand is not met. -/
lemma start_eq_crashed_iff : c.start itemBytes = .crashed ↔
    c.validate = .ok () ∧ ∃ d ∈ c.demands itemBytes, ¬d.IsMet := by
  have hunmet : (∃ d ∈ c.demands itemBytes, ¬d.IsMet) ↔ c.fits itemBytes = false := by
    rw [← Bool.not_eq_true, fits_iff]
    simp
  rw [hunmet]
  cases hvalid : c.validate with
  | error e =>
    rw [start_of_error hvalid]
    simp
  | ok u =>
    rw [start_of_ok hvalid]
    cases c.fits itemBytes <;> simp

/-! ## Main statement -/

/-- **How a start ends**, for all sizes. It is refused just with the error of the check, which is
that of an invalid input, for sizes of which one is zero. Any other sizes start a batcher if there
are at most `mostWorkers` and the items of a full batch can be set aside, and break the start down
if one of its demands is not met. A batcher that runs has all its workers and nothing to do yet. And
no configuration that was accepted is refused. -/
theorem start_outcome (c : BatcherConfig) (itemBytes : Nat) :
    (∀ e, c.start itemBytes = .refused e ↔ c.validate = .error e) ∧
    (∀ e, c.validate = .error e → ∃ message, e = .invalidInput message) ∧
    (c.validate = .ok () ↔ c.batchSize ≠ 0 ∧ c.poolSize ≠ 0) ∧
    (c.start itemBytes = .running ↔ c.validate = .ok () ∧ c.poolSize.toNat ≤ mostWorkers ∧
      c.batchSize.toNat * itemBytes ≤ allocationBound) ∧
    (c.start itemBytes = .crashed ↔
      c.validate = .ok () ∧ ∃ d ∈ c.demands itemBytes, ¬d.IsMet) ∧
    (c.start itemBytes = .running → ∀ α : Type,
      (Batcher.State.initial c : Batcher.State α).isServed = true ∧
      (Batcher.State.initial c : Batcher.State α).workers.length = c.poolSize.toNat ∧
      (Batcher.State.initial c : Batcher.State α).lifecycle = .idle) ∧
    ∀ config : Config, config.validate = .ok () →
      ∀ e, (ofConfig config.batching config.retry).start itemBytes ≠ .refused e := by
  refine ⟨fun e => start_eq_refused_iff, fun e => invalidInput_of_validate,
    BatchingConfig.validate_eq_ok_iff, ?_, start_eq_crashed_iff, ?_, ?_⟩
  · rw [start_eq_running_iff, isMet_demands_iff]
  · intro hrunning α
    have hpool := (sizes_pos (start_eq_running_iff.mp hrunning).1).2
    have hfirst : (Batcher.State.initial c : Batcher.State α).workers[0]? = some .idle := by
      rw [Batcher.State.initial, List.getElem?_replicate_of_lt hpool]
    exact ⟨Batcher.State.isServed_of_alive hfirst rfl, List.length_replicate, rfl⟩
  · intro config haccepted e hrefused
    rw [start_eq_refused_iff, validate_ofConfig haccepted] at hrefused
    cases hrefused

/-! Items of 120 bytes: the greatest batch that can be set aside, and one item more. -/

/-- One worker and so many items to a batch. -/
def ofBatchSize (batchSize : UInt64) : BatcherConfig :=
  { batchSize, poolSize := 1, retry := .noRetries }

theorem start_outcome_greatest :
    (ofBatchSize 76861433640456465).start 120 = .running ∧
      (Batcher.State.initial (ofBatchSize 76861433640456465) : Batcher.State Nat).isServed = true ∧
      (ofBatchSize 76861433640456466).validate = .ok () ∧
      (ofBatchSize 76861433640456466).start 120 = .crashed := by
  obtain ⟨-, -, -, hrunning, -, hserved, -⟩ := start_outcome (ofBatchSize 76861433640456465) 120
  obtain ⟨-, -, hvalid, -, hcrashed, -⟩ := start_outcome (ofBatchSize 76861433640456466) 120
  have hstarted := hrunning.mpr ⟨rfl, by decide, by decide⟩
  have haccepted := hvalid.mpr (by decide)
  -- the last demand is the one for the batch
  have hunmet : ∃ d ∈ (ofBatchSize 76861433640456466).demands 120, ¬d.IsMet :=
    ⟨_, .tail _ (.tail _ (.tail _ (.head _))), by unfold Demand.IsMet; decide⟩
  exact ⟨hstarted, (hserved hstarted Nat).1, haccepted, hcrashed.mpr ⟨haccepted, hunmet⟩⟩

/-- Not all valid sizes start a batcher. -/
theorem not_always_started :
    ¬∀ (c : BatcherConfig) (itemBytes : Nat),
      (∃ message, c.validate = .error (.invalidInput message) ∧
        c.start itemBytes = .refused (.invalidInput message)) ∨
      (c.validate = .ok () ∧ c.start itemBytes = .running) := by
  intro h
  rcases h (ofBatchSize 0xFFFFFFFFFFFFFFFF) 120 with ⟨message, hrefused, -⟩ | ⟨-, hrunning⟩
  · cases hrefused
  · exact absurd hrunning (by decide)

end BulkWrite.BatcherConfig
