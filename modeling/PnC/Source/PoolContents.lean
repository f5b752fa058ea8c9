import PnC.Source.PoolAccounting

/-!
# What a pool holds

Every unit that is anywhere in the pool was submitted, and every result that reaches a
callback is one that was made for its unit. Both are stated for a property of units and a
property of results, so that what a handler does enters as a hypothesis.
-/
namespace PnC.Source

open PnC.Library

variable {κ : Type} {config : PoolConfig κ}

namespace WorkerPhase

/-- The unit that the worker has in its hands, up to the end of the result callback. -/
def unit? : WorkerPhase κ → Option WorkUnitMessage
  | .taken work | .active work | .busy work | .registered work | .handling work => some work
  | .handled work _ | .erased work _ | .inactive work _ | .reporting work _ _ => some work
  | _ => none

/-- The unit and its result, from the handler to the end of the result callback. -/
def outcome? : WorkerPhase κ → Option (WorkUnitMessage × ResultMessage)
  | .handled work result | .erased work result | .inactive work result => some (work, result)
  | .reporting work result _ => some (work, result)
  | _ => none

/-- The unit that the handler is through with and that has not been passed on. -/
def finished : WorkerPhase κ → Multiset WorkUnitMessage
  | .handled work _ | .erased work _ | .inactive work _ => {work}
  | _ => 0

/-- What a phase behind the handler says of its unit. -/
def Answers (Q : WorkUnitMessage → ResultMessage → Prop) : WorkerPhase κ → Prop
  | .handled work result => Q work result
  | _ => True

end WorkerPhase

/-- The units that drain_pending has collected. -/
def OwnerPhase.pending : OwnerPhase → List WorkUnitMessage
  | .submitting => []
  | .popping pending | .collecting pending | .drained pending => pending
  | .joining pending | .returned pending => pending

/-- What the threads share speaks of such units and results only. -/
structure PoolShared.Holds (P : WorkUnitMessage → Prop) (Q : WorkUnitMessage → ResultMessage → Prop)
    (s : PoolShared κ) : Prop where
  buffer : ∀ work ∈ s.queue.buffer, P work
  active : ∀ work ∈ s.activeWork.items, P work
  processed : ∀ pair ∈ s.processed, P pair.1 ∧ Q pair.1 pair.2
  passed : ∀ pair ∈ s.passed, pair ∈ s.processed

/-- What one worker has in its hands is such a unit, and its result has been recorded. -/
structure WorkerPhase.Holds (P : WorkUnitMessage → Prop) (s : PoolShared κ)
    (phase : WorkerPhase κ) : Prop where
  unit : ∀ work, phase.unit? = some work → P work
  outcome : ∀ pair, phase.outcome? = some pair → pair ∈ s.processed

structure ThreadPool.Holds (P : WorkUnitMessage → Prop) (Q : WorkUnitMessage → ResultMessage → Prop)
    (pool : ThreadPool κ) : Prop where
  shared : pool.shared.Holds P Q
  workers : ∀ phase ∈ pool.workers, phase.Holds P pool.shared
  pending : ∀ work ∈ pool.owner.pending, P work

variable {P : WorkUnitMessage → Prop} {Q : WorkUnitMessage → ResultMessage → Prop}

theorem mem_items_put {s : KeyedStore String WorkUnitMessage WorkUnitMessage.workUnitId}
    {work other : WorkUnitMessage} (member : other ∈ (s.put work).items) :
    other = work ∨ other ∈ s.items := by
  rcases List.mem_cons.mp member with same | kept
  · exact .inl same
  · exact .inr (List.mem_filter.mp kept).1

/-- The record of results only grows. -/
theorem WorkerStep.processed_mono {i : Nat} {s t : PoolShared κ} {phase next : WorkerPhase κ}
    (step : WorkerStep config i s phase next t) :
    ∀ pair ∈ s.processed, pair ∈ t.processed := by
  intro pair member
  cases step with
  | noHandler | handlerReturns => exact List.mem_append_left _ member
  | _ => exact member

theorem holds_worker {i : Nat} {s t : PoolShared κ} {phase next : WorkerPhase κ}
    (step : WorkerStep config i s phase next t) (answers : next.Answers Q) (shared : s.Holds P Q)
    (holds : phase.Holds P s) : t.Holds P Q ∧ next.Holds P t := by
  obtain ⟨buffer, active, processed, passed⟩ := shared
  obtain ⟨unit, outcome⟩ := holds
  cases step with
  | pop work queue popped =>
    obtain ⟨items, -⟩ := BoundedQueue.pop_ok popped
    rw [items] at buffer
    refine ⟨⟨fun other member => buffer other (List.mem_cons_of_mem _ member), active, processed,
      passed⟩, ?_, nofun⟩
    intro other same
    cases same
    exact buffer work List.mem_cons_self
  | register work =>
    refine ⟨⟨buffer, ?_, processed, passed⟩, unit, outcome⟩
    intro other member
    rcases mem_items_put member with rfl | kept
    · exact unit other rfl
    · exact active other kept
  | noHandler work | handlerReturns work =>
    refine ⟨⟨buffer, active, ?_, ?_⟩, unit, ?_⟩
    · intro pair member
      rcases List.mem_append.mp member with before | new
      · exact processed pair before
      · rw [List.mem_singleton.mp new]
        exact ⟨unit work rfl, answers⟩
    · exact fun pair member => List.mem_append_left _ (passed pair member)
    · intro pair same
      cases same
      exact List.mem_append_right _ List.mem_cons_self
  | erase work result =>
    refine ⟨⟨buffer, ?_, processed, passed⟩, unit, outcome⟩
    exact fun other member => active other (List.mem_filter.mp member).1
  | callResult work result callback free present =>
    refine ⟨⟨buffer, active, processed, ?_⟩, unit, outcome⟩
    intro pair member
    rcases List.mem_append.mp member with before | new
    · exact passed pair before
    · rw [List.mem_singleton.mp new]
      exact outcome _ rfl
  | countActive | countBusy | callHandler | countInactive | resultEffect =>
    exact ⟨⟨buffer, active, processed, passed⟩, unit, outcome⟩
  | _ =>
    refine ⟨⟨buffer, active, processed, passed⟩, ?_, ?_⟩ <;> intro _ same <;> cases same

namespace ThreadPool

variable {pool after : ThreadPool κ}

theorem holds_start (size : UInt64) (captured : κ) : (start size captured).Holds P Q := by
  refine ⟨⟨nofun, nofun, nofun, nofun⟩, ?_, nofun⟩
  intro phase member
  rw [List.eq_of_mem_replicate member]
  exact ⟨nofun, nofun⟩

/-- A worker that does not move keeps what it holds. -/
theorem holds_others {left right : List (WorkerPhase κ)} {phase next : WorkerPhase κ}
    {shared : PoolShared κ} (before : pool.workers = left ++ phase :: right)
    (grown : ∀ pair ∈ pool.shared.processed, pair ∈ shared.processed)
    (workers : ∀ phase ∈ pool.workers, phase.Holds P pool.shared) (moved : next.Holds P shared) :
    ∀ phase ∈ left ++ next :: right, phase.Holds P shared := by
  have kept (other : WorkerPhase κ) (member : other ∈ pool.workers) : other.Holds P shared :=
    ⟨(workers other member).unit,
      fun pair same => grown pair ((workers other member).outcome pair same)⟩
  intro other member
  rcases List.mem_append.mp member with inLeft | inRight
  · exact kept other (before ▸ List.mem_append_left _ inLeft)
  · rcases List.mem_cons.mp inRight with rfl | inTail
    · exact moved
    · exact kept other (before ▸ List.mem_append_right _ (List.mem_cons_of_mem _ inTail))

theorem holds_owner {owner : OwnerPhase} {shared : PoolShared κ} {drawn : List WorkUnitMessage}
    (step : OwnerStep pool owner shared drawn) (holds : pool.Holds P Q) :
    Holds P Q { pool with shared := shared, owner := owner, drawn := drawn } := by
  obtain ⟨⟨buffer, active, processed, passed⟩, workers, pending⟩ := holds
  cases step with
  | drain standing => exact ⟨⟨buffer, active, processed, passed⟩, workers, nofun⟩
  | pop found work queue standing popped =>
    obtain ⟨items, -⟩ := BoundedQueue.tryPop_some popped
    rw [items] at buffer
    rw [standing] at pending
    refine ⟨⟨fun other member => buffer other (List.mem_cons_of_mem _ member), active, processed,
      passed⟩, fun phase member => ⟨(workers phase member).unit, (workers phase member).outcome⟩,
      ?_⟩
    intro other member
    rcases List.mem_append.mp member with before | new
    · exact pending other before
    · rw [List.mem_singleton.mp new]
      exact buffer work List.mem_cons_self
  | queueEmpty found standing popped =>
    rw [standing] at pending
    exact ⟨⟨buffer, active, processed, passed⟩, workers, pending⟩
  | collect found standing =>
    rw [standing] at pending
    refine ⟨⟨buffer, nofun, processed, passed⟩,
      fun phase member => ⟨(workers phase member).unit, (workers phase member).outcome⟩, ?_⟩
    intro other member
    rcases List.mem_append.mp member with before | collected
    · exact pending other before
    · exact active other collected
  | shutDown found standing =>
    rw [standing] at pending
    exact ⟨⟨buffer, active, processed, passed⟩,
      fun phase member => ⟨(workers phase member).unit, (workers phase member).outcome⟩, pending⟩
  | joined found standing exited =>
    rw [standing] at pending
    exact ⟨⟨buffer, active, processed, passed⟩, workers, pending⟩

/-- A step keeps what the pool holds, given what is submitted and what the handler returns. -/
theorem holds_step {event : PoolEvent} (holds : pool.Holds P Q)
    (submits : ∀ work, event = .submit work → P work)
    (returns : ∀ i outcome work, event = .handlerReturns i outcome →
      pool.workers[i]? = some (.handling work) → Q work (outcome.result work))
    (missing : config.hasHandler = false →
      ∀ work : WorkUnitMessage, Q work (work.failure "no handler registered"))
    (taken : (poolSystem config).step pool event = some after) : after.Holds P Q := by
  cases event with
  | submit work =>
    obtain ⟨⟨buffer, active, processed, passed⟩, workers, pending⟩ := holds
    simp only [poolSystem] at taken
    split at taken
    next standing =>
      obtain ⟨queue, pushed, rfl⟩ := Option.map_eq_some_iff.mp taken
      rw [standing] at pending
      refine ⟨⟨?_, active, processed, passed⟩,
        fun phase member => ⟨(workers phase member).unit, (workers phase member).outcome⟩,
        by rw [standing]; exact pending⟩
      intro other member
      rcases BoundedQueue.push_buffer pushed with same | stored
      · exact buffer other (same ▸ member)
      · dsimp only at member
        rw [stored] at member
        rcases List.mem_append.mp member with before | new
        · exact buffer other before
        · rw [List.mem_singleton.mp new]
          exact submits work rfl
    next => cases taken
  | requestStop =>
    cases taken
    exact ⟨⟨holds.shared.buffer, holds.shared.active, holds.shared.processed,
      holds.shared.passed⟩, fun phase member =>
        ⟨(holds.workers phase member).unit, (holds.workers phase member).outcome⟩, holds.pending⟩
  | worker i =>
    obtain ⟨left, phase, right, next, shared, rfl, before, move, rfl⟩ := moveWorker_some taken
    have step := worker_steps move
    have answers : next.Answers Q := by
      cases step with
      | noHandler work free none_ => exact missing none_ work
      | handlerReturns work outcome => cases move
      | _ => trivial
    obtain ⟨sharedHolds, moved⟩ := holds_worker step answers holds.shared
      (holds.workers phase (before ▸ by simp))
    exact ⟨sharedHolds, holds_others before step.processed_mono holds.workers moved,
      holds.pending⟩
  | handlerReturns i outcome =>
    obtain ⟨left, phase, right, next, shared, rfl, before, move, rfl⟩ := moveWorker_some taken
    have step : WorkerStep config left.length pool.shared phase next shared := handler_steps move
    have standing : pool.workers[left.length]? = some phase := by
      rw [before, List.getElem?_append_right (Nat.le_refl _), Nat.sub_self]
      rfl
    have answers : next.Answers Q := by
      cases phase with
      | handling work =>
        cases move
        exact returns left.length outcome work rfl standing
      | _ => cases move
    obtain ⟨sharedHolds, moved⟩ := holds_worker step answers holds.shared
      (holds.workers phase (before ▸ by simp))
    exact ⟨sharedHolds, holds_others before step.processed_mono holds.workers moved,
      holds.pending⟩
  | owner =>
    obtain ⟨owner, shared, drawn, step, rfl⟩ := owner_steps taken
    exact holds_owner step holds

/-- What holds of every unit that was submitted before holds of it afterwards. -/
theorem Holds.mono {P' : WorkUnitMessage → Prop} (weaker : ∀ work, P work → P' work)
    (holds : pool.Holds P Q) : pool.Holds P' Q := by
  obtain ⟨⟨buffer, active, processed, passed⟩, workers, pending⟩ := holds
  exact ⟨⟨fun work member => weaker work (buffer work member),
    fun work member => weaker work (active work member),
    fun pair member => ⟨weaker pair.1 (processed pair member).1, (processed pair member).2⟩,
    passed⟩, fun phase member => ⟨fun work same => weaker work ((workers phase member).unit work
      same), (workers phase member).outcome⟩, fun work member => weaker work (pending work member)⟩

/-- The units that the handler is through with are those passed on, and those on their way. -/
def Recorded (pool : ThreadPool κ) : Prop :=
  (↑(pool.shared.processed.map Prod.fst) : Multiset WorkUnitMessage) =
    ↑(pool.shared.passed.map Prod.fst) + pool.total WorkerPhase.finished

end ThreadPool

/-- A worker is through with a unit once, and passes it on once. -/
theorem WorkerStep.recorded {i : Nat} {s t : PoolShared κ} {phase next : WorkerPhase κ}
    (registered : config.resultCallback.isSome = true)
    (step : WorkerStep config i s phase next t) :
    (↑(t.processed.map Prod.fst) : Multiset WorkUnitMessage) + ↑(s.passed.map Prod.fst) +
        phase.finished =
      ↑(s.processed.map Prod.fst) + ↑(t.passed.map Prod.fst) + next.finished := by
  cases step with
  | noHandler | handlerReturns | callResult =>
    simp only [WorkerPhase.finished, List.map_append, List.map_cons, List.map_nil,
      ← Multiset.coe_add, Multiset.coe_singleton, add_zero]
    ac_rfl
  | noResultCallback work result free missing => simp [missing] at registered
  | _ => rfl

namespace ThreadPool

variable {pool after : ThreadPool κ}

theorem recorded_start (size : UInt64) (captured : κ) : (start size captured).Recorded := by
  simp [Recorded, start, total, WorkerPhase.finished]

theorem recorded_step (registered : config.resultCallback.isSome = true)
    (step : PoolStep config pool after) (recorded : pool.Recorded) : after.Recorded := by
  cases step with
  | submit | requestStop => exact recorded
  | worker left right phase next shared before step =>
    have moved := total_move WorkerPhase.finished before
      { pool with shared := shared, workers := left ++ next :: right } rfl
    have flow := step.recorded registered
    unfold Recorded at recorded ⊢
    dsimp only at moved ⊢
    apply add_right_cancel (b := ↑(pool.shared.passed.map Prod.fst) + phase.finished)
    rw [← add_assoc, flow, recorded]
    calc _ = ↑(shared.passed.map Prod.fst) + ↑(pool.shared.passed.map Prod.fst) +
          (pool.total WorkerPhase.finished + next.finished) := by ac_rfl
      _ = _ := by
        rw [← moved]
        ac_rfl
  | owner next shared drawn step => cases step <;> exact recorded

theorem finished_le_held (phase : WorkerPhase κ) : phase.finished ≤ phase.held := by
  cases phase <;> simp [WorkerPhase.finished, WorkerPhase.held]

/-- A unit that has been passed on was submitted, as often. -/
theorem passed_le (accounted : pool.Accounted) :
    (↑(pool.shared.passed.map Prod.fst) : Multiset WorkUnitMessage) ≤ ↑pool.submitted := by
  rw [← accounted.balance, PoolShared.units, add_assoc]
  exact (Multiset.le_add_left _ _).trans (Multiset.le_add_right _ _)

/-- A unit that the handler is through with was submitted, as often. -/
theorem processed_le (accounted : pool.Accounted) (recorded : pool.Recorded) :
    (↑(pool.shared.processed.map Prod.fst) : Multiset WorkUnitMessage) ≤ ↑pool.submitted := by
  have within : pool.total WorkerPhase.finished ≤ pool.total WorkerPhase.held :=
    List.sum_le_sum fun phase _ => finished_le_held phase
  rw [recorded, ← accounted.balance, PoolShared.units]
  calc _ ≤ (↑(pool.shared.passed.map Prod.fst) : Multiset WorkUnitMessage) +
        pool.total WorkerPhase.held := add_le_add le_rfl within
    _ ≤ _ := by
      refine le_trans (Multiset.le_add_left _ ↑pool.shared.queue.buffer) ?_
      rw [← add_assoc]
      exact Multiset.le_add_right _ _

theorem submitted_of_processed (accounted : pool.Accounted) (recorded : pool.Recorded)
    {pair : WorkUnitMessage × ResultMessage} (member : pair ∈ pool.shared.processed) :
    pair.1 ∈ pool.submitted :=
  Multiset.mem_coe.mp (Multiset.mem_of_le (processed_le accounted recorded)
    (Multiset.mem_coe.mpr (List.mem_map_of_mem member)))

end ThreadPool

end PnC.Source
