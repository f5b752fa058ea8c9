import Mathlib.Algebra.BigOperators.Group.List.Basic
import Mathlib.Algebra.Order.BigOperators.Group.List
import Mathlib.Algebra.Order.Group.Multiset
import PnC.Source.ThreadPool

/-!
# What a step of the pool changes

A step of a worker moves that worker alone; sums over the workers change by its phase.
The units a worker holds are the ones it has popped and not yet passed on.
-/
namespace PnC.Source

open PnC.Library

namespace WorkerPhase

variable {κ : Type}

/-- The unit that the worker has popped and not passed to the result callback. -/
def held : WorkerPhase κ → Multiset WorkUnitMessage
  | .taken work | .active work | .busy work | .registered work | .handling work => {work}
  | .handled work _ | .erased work _ | .inactive work _ => {work}
  | _ => 0

/-- Inside the handler. -/
def inHandler : WorkerPhase κ → Nat
  | .handling _ => 1
  | _ => 0

/-- Inside the handler or a callback: the places where callback_mutex_ is held. -/
def holdsMutex : WorkerPhase κ → Nat
  | .handling _ | .reporting .. | .notifying _ => 1
  | _ => 0

theorem inHandler_le_holdsMutex (phase : WorkerPhase κ) : phase.inHandler ≤ phase.holdsMutex := by
  cases phase <;> simp [inHandler, holdsMutex]

end WorkerPhase

/-- What a worker can do: its phase before and after, and what the threads share then. -/
inductive WorkerStep {κ : Type} (config : PoolConfig κ) (i : Nat) (s : PoolShared κ) :
    WorkerPhase κ → WorkerPhase κ → PoolShared κ → Prop where
  | stop : s.stopRequested = true → WorkerStep config i s .loopTest .exited s
  | enter : WorkerStep config i s .loopTest .popping s
  | queueDown (what : Exception) : s.queue.pop = some (.error what) →
      WorkerStep config i s .popping .exited s
  | pop (work : WorkUnitMessage) (queue : BoundedQueue WorkUnitMessage) :
      s.queue.pop = some (.ok (work, queue)) →
      WorkerStep config i s .popping (.taken work) { s with queue := queue }
  | countActive (work : WorkUnitMessage) :
      WorkerStep config i s (.taken work) (.active work) { s with activeCount := s.activeCount + 1 }
  | countBusy (work : WorkUnitMessage) :
      WorkerStep config i s (.active work) (.busy work) { s with idleCount := s.idleCount - 1 }
  | register (work : WorkUnitMessage) :
      WorkerStep config i s (.busy work) (.registered work)
        { s with activeWork := s.activeWork.put work }
  | callHandler (work : WorkUnitMessage) : s.callbackMutex = none → config.hasHandler = true →
      WorkerStep config i s (.registered work) (.handling work) { s with callbackMutex := some i }
  | noHandler (work : WorkUnitMessage) : s.callbackMutex = none → config.hasHandler = false →
      WorkerStep config i s (.registered work)
        (.handled work (work.failure "no handler registered"))
        { s with processed := s.processed ++ [(work, work.failure "no handler registered")] }
  | handlerReturns (work : WorkUnitMessage) (outcome : HandlerOutcome) :
      WorkerStep config i s (.handling work) (.handled work (outcome.result work))
        { s with
          callbackMutex := none
          processed := s.processed ++ [(work, outcome.result work)] }
  | erase (work : WorkUnitMessage) (result : ResultMessage) :
      WorkerStep config i s (.handled work result) (.erased work result)
        { s with activeWork := s.activeWork.erase work.workUnitId }
  | countInactive (work : WorkUnitMessage) (result : ResultMessage) :
      WorkerStep config i s (.erased work result) (.inactive work result)
        { s with activeCount := s.activeCount - 1 }
  | noResultCallback (work : WorkUnitMessage) (result : ResultMessage) :
      s.callbackMutex = none → config.resultCallback = none →
      WorkerStep config i s (.inactive work result) (.reported result) s
  | callResult (work : WorkUnitMessage) (result : ResultMessage)
      (callback : ResultMessage → List (κ → κ)) :
      s.callbackMutex = none → config.resultCallback = some callback →
      WorkerStep config i s (.inactive work result) (.reporting work result (callback result))
        { s with callbackMutex := some i, passed := s.passed ++ [(work, result)] }
  | resultEffect (work : WorkUnitMessage) (result : ResultMessage) (effect : κ → κ)
      (rest : List (κ → κ)) :
      WorkerStep config i s (.reporting work result (effect :: rest)) (.reporting work result rest)
        { s with captured := effect s.captured }
  | resultReturns (work : WorkUnitMessage) (result : ResultMessage) :
      WorkerStep config i s (.reporting work result []) (.reported result)
        { s with callbackMutex := none }
  | countCompleted (result : ResultMessage) : result.status = "success" →
      WorkerStep config i s (.reported result) .tallied
        { s with totalCompleted := s.totalCompleted + 1 }
  | countFailed (result : ResultMessage) : result.status ≠ "success" →
      WorkerStep config i s (.reported result) .tallied
        { s with totalFailed := s.totalFailed + 1 }
  | countIdle : WorkerStep config i s .tallied .idle { s with idleCount := s.idleCount + 1 }
  | queueEmpty : s.queue.empty = true → WorkerStep config i s .idle .drained s
  | queueFilled : s.queue.empty = false → WorkerStep config i s .idle .loopTest s
  | noIdleCallback : s.callbackMutex = none → config.idleCallback = none →
      WorkerStep config i s .drained .loopTest s
  | callIdle (callback : UInt64 → List (κ → κ)) : s.callbackMutex = none →
      config.idleCallback = some callback →
      WorkerStep config i s .drained (.notifying (callback s.idleCount))
        { s with callbackMutex := some i }
  | idleEffect (effect : κ → κ) (rest : List (κ → κ)) :
      WorkerStep config i s (.notifying (effect :: rest)) (.notifying rest)
        { s with captured := effect s.captured }
  | idleReturns : WorkerStep config i s (.notifying []) .loopTest { s with callbackMutex := none }

namespace ThreadPool

variable {κ : Type} {config : PoolConfig κ} {i : Nat} {s t : PoolShared κ}
  {phase next : WorkerPhase κ}

/-- The sum of a weight over the workers. -/
def total {M : Type} [AddCommMonoid M] (pool : ThreadPool κ) (weight : WorkerPhase κ → M) : M :=
  (pool.workers.map weight).sum

theorem moveWorker_some {pool after : ThreadPool κ}
    {move : WorkerPhase κ → Option (WorkerPhase κ × PoolShared κ)}
    (moved : pool.moveWorker i move = some after) :
    ∃ left phase right next shared, left.length = i ∧ pool.workers = left ++ phase :: right ∧
      move phase = some (next, shared) ∧
      after = { pool with shared := shared, workers := left ++ next :: right } := by
  unfold moveWorker at moved
  split at moved
  next => cases moved
  next phase present =>
    obtain ⟨⟨next, shared⟩, move, rfl⟩ := Option.map_eq_some_iff.mp moved
    obtain ⟨inside, rfl⟩ := List.getElem?_eq_some_iff.mp present
    refine ⟨pool.workers.take i, pool.workers[i], pool.workers.drop (i + 1), next, shared, ?_, ?_,
      move, ?_⟩
    · rw [List.length_take]
      omega
    · rw [List.getElem_cons_drop, List.take_append_drop]
    · dsimp only
      rw [List.set_eq_take_append_cons_drop, if_pos inside]

/-- A sum over the workers changes by the worker that moved. -/
theorem total_move {M : Type} [AddCommMonoid M] (weight : WorkerPhase κ → M)
    {pool : ThreadPool κ} {left right : List (WorkerPhase κ)}
    (before : pool.workers = left ++ phase :: right) (after : ThreadPool κ)
    (moved : after.workers = left ++ next :: right) :
    after.total weight + weight phase = pool.total weight + weight next := by
  simp only [total, before, moved, List.map_append, List.map_cons, List.sum_append, List.sum_cons]
  ac_rfl

theorem weight_le_total (weight : WorkerPhase κ → Nat) {pool : ThreadPool κ}
    {left right : List (WorkerPhase κ)} (before : pool.workers = left ++ phase :: right) :
    weight phase ≤ pool.total weight := by
  simp only [total, before, List.map_append, List.map_cons, List.sum_append, List.sum_cons]
  omega

/-- What a worker gives to or takes from the shared amount leaves the sum of both. -/
theorem total_kept {M : Type} [AddCancelCommMonoid M] (weight : WorkerPhase κ → M)
    {pool after : ThreadPool κ} {left right : List (WorkerPhase κ)} {amount amount' : M}
    (before : pool.workers = left ++ phase :: right)
    (moved : after.workers = left ++ next :: right)
    (flow : amount' + weight next = amount + weight phase) :
    amount' + after.total weight = amount + pool.total weight := by
  have shift := total_move weight before after moved
  apply add_right_cancel (b := weight phase)
  calc amount' + after.total weight + weight phase
      = amount' + (after.total weight + weight phase) := add_assoc ..
    _ = amount' + (pool.total weight + weight next) := by rw [shift]
    _ = amount' + weight next + pool.total weight := by ac_rfl
    _ = amount + weight phase + pool.total weight := by rw [flow]
    _ = amount + pool.total weight + weight phase := by ac_rfl

theorem worker_steps (moved : stepWorker config i s phase = some (next, t)) :
    WorkerStep config i s phase next t := by
  cases phase with
  | loopTest =>
    cases moved
    split
    next requested => exact .stop requested
    next => exact .enter
  | popping =>
    simp only [stepWorker] at moved
    split at moved
    next => cases moved
    next what popped =>
      cases moved
      exact .queueDown what popped
    next work queue popped =>
      cases moved
      exact .pop work queue popped
  | taken work => cases moved; exact .countActive work
  | active work => cases moved; exact .countBusy work
  | busy work => cases moved; exact .register work
  | registered work =>
    simp only [stepWorker] at moved
    split at moved
    next free =>
      split at moved
      next present => cases moved; exact .callHandler work free present
      next missing => cases moved; exact .noHandler work free (Bool.eq_false_iff.mpr missing)
    next => cases moved
  | handling work => cases moved
  | handled work result => cases moved; exact .erase work result
  | erased work result => cases moved; exact .countInactive work result
  | inactive work result =>
    simp only [stepWorker] at moved
    split at moved
    next free =>
      split at moved
      next missing => cases moved; exact .noResultCallback work _ free missing
      next callback present => cases moved; exact .callResult work result callback free present
    next => cases moved
  | reporting work result rest =>
    cases rest with
    | nil => cases moved; exact .resultReturns work result
    | cons effect rest => cases moved; exact .resultEffect work result effect rest
  | reported result =>
    cases moved
    split
    next success => exact .countCompleted result success
    next failure => exact .countFailed result failure
  | tallied => cases moved; exact .countIdle
  | idle =>
    cases moved
    split
    next empty => exact .queueEmpty empty
    next filled => exact .queueFilled (Bool.eq_false_iff.mpr filled)
  | drained =>
    simp only [stepWorker] at moved
    split at moved
    next free =>
      split at moved
      next missing => cases moved; exact .noIdleCallback free missing
      next callback present => cases moved; exact .callIdle callback free present
    next => cases moved
  | notifying rest =>
    cases rest with
    | nil => cases moved; exact .idleReturns
    | cons effect rest => cases moved; exact .idleEffect effect rest
  | exited => cases moved

theorem handler_steps {outcome : HandlerOutcome}
    (moved : stepHandler outcome s phase = some (next, t)) :
    WorkerStep config i s phase next t := by
  cases phase with
  | handling work => cases moved; exact .handlerReturns work outcome
  | _ => cases moved

end ThreadPool

/-- What the owner can do: its phase before and after, what the threads share then, and
what drain_pending has taken out of the queue. -/
inductive OwnerStep {κ : Type} (pool : ThreadPool κ) :
    OwnerPhase → PoolShared κ → List WorkUnitMessage → Prop where
  | drain : pool.owner = .submitting → OwnerStep pool (.popping []) pool.shared pool.drawn
  | pop (pending : List WorkUnitMessage) (work : WorkUnitMessage)
      (queue : BoundedQueue WorkUnitMessage) : pool.owner = .popping pending →
      pool.shared.queue.tryPop = some (work, queue) →
      OwnerStep pool (.popping (pending ++ [work])) { pool.shared with queue := queue }
        (pool.drawn ++ [work])
  | queueEmpty (pending : List WorkUnitMessage) : pool.owner = .popping pending →
      pool.shared.queue.tryPop = none →
      OwnerStep pool (.collecting pending) pool.shared pool.drawn
  | collect (pending : List WorkUnitMessage) : pool.owner = .collecting pending →
      OwnerStep pool (.drained (pending ++ pool.shared.activeWork.items))
        { pool.shared with activeWork := .empty } pool.drawn
  | shutDown (pending : List WorkUnitMessage) : pool.owner = .drained pending →
      OwnerStep pool (.joining pending)
        { pool.shared with queue := pool.shared.queue.shutdown } pool.drawn
  | joined (pending : List WorkUnitMessage) : pool.owner = .joining pending →
      pool.workers.all WorkerPhase.hasExited = true →
      OwnerStep pool (.returned pending) pool.shared pool.drawn

/-- What a step of the pool does. -/
inductive PoolStep {κ : Type} (config : PoolConfig κ) (pool : ThreadPool κ) :
    ThreadPool κ → Prop where
  | submit (work : WorkUnitMessage) (queue : BoundedQueue WorkUnitMessage) :
      pool.owner = .submitting → pool.shared.queue.push work = some queue →
      PoolStep config pool
        { pool with
          shared := { pool.shared with queue := queue }
          submitted := pool.submitted ++ [work] }
  | requestStop :
      PoolStep config pool { pool with shared := { pool.shared with stopRequested := true } }
  | worker (left right : List (WorkerPhase κ)) (phase next : WorkerPhase κ)
      (shared : PoolShared κ) : pool.workers = left ++ phase :: right →
      WorkerStep config left.length pool.shared phase next shared →
      PoolStep config pool { pool with shared := shared, workers := left ++ next :: right }
  | owner (next : OwnerPhase) (shared : PoolShared κ) (drawn : List WorkUnitMessage) :
      OwnerStep pool next shared drawn →
      PoolStep config pool { pool with shared := shared, owner := next, drawn := drawn }

namespace ThreadPool

variable {κ : Type} {config : PoolConfig κ} {pool after : ThreadPool κ}

theorem owner_steps (moved : pool.stepOwner = some after) :
    ∃ next shared drawn, OwnerStep pool next shared drawn ∧
      after = { pool with shared := shared, owner := next, drawn := drawn } := by
  unfold stepOwner at moved
  split at moved
  next standing => cases moved; exact ⟨_, _, _, .drain standing, rfl⟩
  next pending standing =>
    split at moved
    next none => cases moved; exact ⟨_, _, _, .queueEmpty pending standing none, rfl⟩
    next work queue popped =>
      cases moved
      exact ⟨_, _, _, .pop pending work queue standing popped, rfl⟩
  next pending standing => cases moved; exact ⟨_, _, _, .collect pending standing, rfl⟩
  next pending standing => cases moved; exact ⟨_, _, _, .shutDown pending standing, rfl⟩
  next pending standing =>
    split at moved
    next exited => cases moved; exact ⟨_, _, _, .joined pending standing exited, rfl⟩
    next => cases moved
  next => cases moved

theorem pool_steps {event : PoolEvent} (taken : (poolSystem config).step pool event = some after) :
    PoolStep config pool after := by
  cases event with
  | submit work =>
    simp only [poolSystem] at taken
    split at taken
    next standing =>
      obtain ⟨queue, pushed, rfl⟩ := Option.map_eq_some_iff.mp taken
      exact .submit work queue standing pushed
    next => cases taken
  | requestStop => cases taken; exact .requestStop
  | worker i =>
    obtain ⟨left, phase, right, next, shared, rfl, before, move, rfl⟩ := moveWorker_some taken
    exact .worker left right phase next shared before (worker_steps move)
  | handlerReturns i outcome =>
    obtain ⟨left, phase, right, next, shared, rfl, before, move, rfl⟩ := moveWorker_some taken
    exact .worker left right phase next shared before (handler_steps move)
  | owner =>
    obtain ⟨next, shared, drawn, step, rfl⟩ := owner_steps taken
    exact .owner next shared drawn step

end ThreadPool

end PnC.Source
