import PnC.Source.PoolSteps

/-!
# How far a pool is from its end

Once nothing is submitted any more, every step of the pool lowers its potential, or keeps it
and runs one of the effects of a callback; only a signal that is given again changes nothing.
-/
namespace PnC.Source

open PnC.Library

namespace WorkerPhase

variable {κ : Type}

/-- The phases that are left until the thread could end, as if no unit were left. -/
def rank : WorkerPhase κ → Nat
  | .exited => 0
  | .popping => 1
  | .loopTest => 2
  | .notifying _ => 3
  | .drained => 4
  | .idle => 5
  | .tallied => 6
  | .reported _ => 7
  | .reporting .. => 8
  | .inactive .. => 9
  | .erased .. => 10
  | .handled .. => 11
  | .handling _ => 12
  | .registered _ => 13
  | .busy _ => 14
  | .active _ => 15
  | .taken _ => 16

/-- What is left of a callback. -/
def effects : WorkerPhase κ → Nat
  | .reporting _ _ rest | .notifying rest => rest.length
  | _ => 0

end WorkerPhase

def OwnerPhase.rank : OwnerPhase → Nat
  | .returned _ => 0
  | .joining _ => 1
  | .drained _ => 2
  | .collecting _ => 3
  | .popping _ => 4
  | .submitting => 5

/-- A unit that is popped brings a worker from the end of its loop to the start. -/
def PoolShared.potential {κ : Type} (s : PoolShared κ) : Nat :=
  16 * s.queue.buffer.length + if s.stopRequested then 0 else 1

namespace ThreadPool

variable {κ : Type} {config : PoolConfig κ} {pool after : ThreadPool κ}

def potential (pool : ThreadPool κ) : Nat :=
  pool.shared.potential + pool.total WorkerPhase.rank + pool.owner.rank

def effects (pool : ThreadPool κ) : Nat := pool.total WorkerPhase.effects

/-- The step brings the pool nearer to its end. -/
def Nearer (after pool : ThreadPool κ) : Prop :=
  after.potential < pool.potential ∨
    after.potential = pool.potential ∧ after.owner = pool.owner ∧ after.effects < pool.effects

theorem workerStep_nearer {i : Nat} {s t : PoolShared κ} {phase next : WorkerPhase κ}
    (step : WorkerStep config i s phase next t) :
    t.potential + next.rank < s.potential + phase.rank ∨
      t.potential + next.rank = s.potential + phase.rank ∧ next.effects < phase.effects := by
  cases step with
  | pop work queue popped =>
    left
    have shorter := congrArg List.length (BoundedQueue.pop_ok popped).1
    simp only [List.length_cons] at shorter
    simp only [PoolShared.potential, WorkerPhase.rank]
    omega
  | resultEffect | idleEffect =>
    right
    exact ⟨rfl, Nat.lt_succ_self _⟩
  | _ =>
    left
    simp [PoolShared.potential, WorkerPhase.rank]

theorem worker_nearer {left right : List (WorkerPhase κ)} {phase next : WorkerPhase κ}
    {shared : PoolShared κ} (before : pool.workers = left ++ phase :: right)
    (step : WorkerStep config left.length pool.shared phase next shared) :
    Nearer { pool with shared := shared, workers := left ++ next :: right } pool := by
  have ranks := total_move WorkerPhase.rank before
    { pool with shared := shared, workers := left ++ next :: right } rfl
  have counts := total_move WorkerPhase.effects before
    { pool with shared := shared, workers := left ++ next :: right } rfl
  unfold Nearer potential effects
  dsimp only
  obtain lower | ⟨same, fewer⟩ := workerStep_nearer step
  · left
    omega
  · right
    refine ⟨by omega, rfl, by omega⟩

theorem owner_nearer {next : OwnerPhase} {shared : PoolShared κ} {drawn : List WorkUnitMessage}
    (step : OwnerStep pool next shared drawn) :
    Nearer { pool with shared := shared, owner := next, drawn := drawn } pool := by
  left
  unfold potential
  cases step with
  | pop pending work queue standing popped =>
    have shorter := congrArg List.length (BoundedQueue.tryPop_some popped).1
    simp only [List.length_cons] at shorter
    simp only [PoolShared.potential, total, OwnerPhase.rank, standing]
    omega
  | drain standing | queueEmpty _ standing | collect _ standing | shutDown _ standing
    | joined _ standing =>
    rw [standing]
    exact Nat.lt_succ_self _

/-- Whatever the pool does by itself brings it nearer to its end. -/
theorem step_nearer {event : PoolEvent} (taken : (poolSystem config).step pool event = some after)
    (closed : ∀ work, event ≠ .submit work)
    (signal : event = .requestStop → pool.shared.stopRequested = false) :
    after.Nearer pool := by
  cases event with
  | submit work => exact absurd rfl (closed work)
  | requestStop =>
    cases taken
    left
    simp [potential, PoolShared.potential, total, signal rfl]
  | worker i =>
    obtain ⟨left, phase, right, next, shared, rfl, before, move, rfl⟩ := moveWorker_some taken
    exact worker_nearer before (worker_steps move)
  | handlerReturns i outcome =>
    obtain ⟨left, phase, right, next, shared, rfl, before, move, rfl⟩ := moveWorker_some taken
    have step : WorkerStep config left.length pool.shared phase next shared := handler_steps move
    exact worker_nearer before step
  | owner =>
    obtain ⟨next, shared, drawn, step, rfl⟩ := owner_steps taken
    exact owner_nearer step

end ThreadPool

end PnC.Source
