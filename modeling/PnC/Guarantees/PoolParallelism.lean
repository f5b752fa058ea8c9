import Mathlib.Algebra.Order.Group.Nat
import PnC.Source.PoolSteps

/-!
# The handler is called by one worker at a time

worker_loop holds callback_mutex_ around handler_->handle, so the workers of a pool of any
size take turns in the handler, and with the two callbacks.
-/
namespace PnC.Guarantees.PoolParallelism

open PnC.Library PnC.Source

variable {κ : Type} {config : PoolConfig κ}

/-- The workers inside handler_->handle. -/
def handlersRunning (pool : ThreadPool κ) : Nat := pool.total WorkerPhase.inHandler

/-- Some interleaving of the steps leads to `k` workers in the handler at once. -/
def ReachesParallel (config : PoolConfig κ) (pool : ThreadPool κ) (k : Nat) : Prop :=
  ∃ events final, (poolSystem config).run pool events = some final ∧ handlersRunning final = k

/-- 1 while callback_mutex_ is locked -/
def mutexTaken (s : PoolShared κ) : Nat := if s.callbackMutex = none then 0 else 1

theorem mutexTaken_le_one (s : PoolShared κ) : mutexTaken s ≤ 1 := by
  unfold mutexTaken
  split <;> omega

/-- callback_mutex_ is locked exactly while some worker stands where it is held, and then
by that worker alone. -/
def MutexHeldOnce (pool : ThreadPool κ) : Prop :=
  pool.total WorkerPhase.holdsMutex = mutexTaken pool.shared

/-- A worker enters such a place by locking the mutex, and unlocks it on the way out. -/
theorem mutexTaken_step {i : Nat} {s t : PoolShared κ} {phase next : WorkerPhase κ}
    (step : WorkerStep config i s phase next t) (locked : phase.holdsMutex ≤ mutexTaken s) :
    mutexTaken t + phase.holdsMutex = mutexTaken s + next.holdsMutex := by
  cases step with
  | callHandler work free present => simp [mutexTaken, WorkerPhase.holdsMutex, free]
  | callResult work result callback free present =>
    simp [mutexTaken, WorkerPhase.holdsMutex, free]
  | callIdle callback free present => simp [mutexTaken, WorkerPhase.holdsMutex, free]
  | handlerReturns | resultReturns | idleReturns =>
    have bound := mutexTaken_le_one s
    change 1 ≤ mutexTaken s at locked
    change 0 + 1 = mutexTaken s + 0
    omega
  | _ => rfl

theorem mutexHeldOnce_step {pool after : ThreadPool κ} (step : PoolStep config pool after)
    (once : MutexHeldOnce pool) : MutexHeldOnce after := by
  cases step with
  | submit => exact once
  | requestStop => exact once
  | worker left right phase next shared before step =>
    have moved := ThreadPool.total_move WorkerPhase.holdsMutex before
      { pool with shared := shared, workers := left ++ next :: right } rfl
    have within := ThreadPool.weight_le_total WorkerPhase.holdsMutex before
    unfold MutexHeldOnce at once ⊢
    have balance := mutexTaken_step step (once ▸ within)
    dsimp only at moved ⊢
    omega
  | owner next shared drawn step =>
    cases step <;> exact once

theorem mutexHeldOnce_start (size : UInt64) (captured : κ) :
    MutexHeldOnce (.start size captured) := by
  simp [MutexHeldOnce, ThreadPool.total, ThreadPool.start, mutexTaken, WorkerPhase.holdsMutex]

theorem mutexHeldOnce_run {pool final : ThreadPool κ} {events : List PoolEvent}
    (once : MutexHeldOnce pool) (replay : (poolSystem config).run pool events = some final) :
    MutexHeldOnce final :=
  TransitionSystem.run_preserves MutexHeldOnce
    (fun _ _ _ once taken => mutexHeldOnce_step (ThreadPool.pool_steps taken) once) once replay

/-- In every state of the pool at most one worker is inside the handler. -/
theorem handlersRunning_le_one {pool : ThreadPool κ} (once : MutexHeldOnce pool) :
    handlersRunning pool ≤ 1 :=
  calc handlersRunning pool
      ≤ pool.total WorkerPhase.holdsMutex :=
        List.sum_le_sum fun phase _ => phase.inHandler_le_holdsMutex
    _ = mutexTaken pool.shared := once
    _ ≤ 1 := mutexTaken_le_one pool.shared

/-- A started pool of any size never has two workers in the handler, however many units
are queued. -/
theorem never_parallel (config : PoolConfig κ) (size : UInt64) (captured : κ) (k : Nat)
    (several : 2 ≤ k) (before : List PoolEvent) (pool : ThreadPool κ)
    (started : (poolSystem config).run (.start size captured) before = some pool)
    (queued : pool.shared.queue.buffer.length = k) : ¬ ReachesParallel config pool k := by
  intro ⟨events, final, replay, parallel⟩
  have once := mutexHeldOnce_run (mutexHeldOnce_start size captured) started
  have bound := handlersRunning_le_one (mutexHeldOnce_run once replay)
  omega

def echoPool : PoolConfig Unit := ⟨true, none, none⟩

/-- Two units for two workers. -/
def twoSubmits : List PoolEvent := [.submit (.named "u-0"), .submit (.named "u-1")]

theorem never_parallel_two : ∃ pool,
    (poolSystem echoPool).run (.start 2 ()) twoSubmits = some pool ∧
      pool.shared.queue.buffer.length = 2 ∧ ¬ ReachesParallel echoPool pool 2 :=
  ⟨_, rfl, rfl, never_parallel echoPool 2 () 2 (by decide) twoSubmits _ rfl rfl⟩

/-- Two workers never handle the two units at the same time. -/
theorem pool_not_parallel :
    ¬ ∀ (size : UInt64) (k : Nat), 2 ≤ size → 2 ≤ k → k ≤ size.toNat →
      ∀ before pool, (poolSystem echoPool).run (.start size ()) before = some pool →
        pool.shared.queue.buffer.length = k → ReachesParallel echoPool pool k := by
  intro claimed
  obtain ⟨events, final, replay, parallel⟩ :=
    claimed 2 2 (by decide) (by decide) (by decide) twoSubmits _ rfl rfl
  have whole : (poolSystem echoPool).run (.start 2 ()) (twoSubmits ++ events) = some final := by
    rw [TransitionSystem.run_append]
    exact replay
  have bound := handlersRunning_le_one (mutexHeldOnce_run (mutexHeldOnce_start 2 ()) whole)
  omega

end PnC.Guarantees.PoolParallelism
