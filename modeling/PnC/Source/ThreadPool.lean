import PnC.Library.KeyedStore
import PnC.Library.Transition
import PnC.Source.BoundedQueue
import PnC.Source.Message

/-!
# The consumer's thread pool

thread_pool.cpp, one access to what the threads share at a time: an operation of the
queue, an atomic counter, a critical section of active_work_mutex_. callback_mutex_ is
held from one step to a later one, around the handler and around each callback. One
thread owns the pool and submits, drains and shuts down. The lists `submitted`, `drawn`,
`processed` and `passed` are kept for statements; no step looks at them.
-/
namespace PnC.Source

open PnC.Library

/-- How a call of handler_->handle ends. -/
inductive HandlerOutcome where
  | returned (result : ResultMessage)
  | threw (what : String)

/-- What is registered in the pool. A callback is its effects on what it captures, one
after the other; one that throws has fewer of them. -/
structure PoolConfig (κ : Type) where
  hasHandler : Bool
  resultCallback : Option (ResultMessage → List (κ → κ))
  idleCallback : Option (UInt64 → List (κ → κ))

/-- The failure that worker_loop makes up itself. -/
def WorkUnitMessage.failure (work : WorkUnitMessage) (what : String) : ResultMessage where
  workUnitId := work.workUnitId
  seq := work.seq
  consumerId := ""
  status := "failure"
  result := .object [("error", .string what)]
  timestamp := ""
  foundPassword := none
  fileError := none

/-- What a handler that succeeds returns, as far as the pool looks at it. -/
def WorkUnitMessage.success (work : WorkUnitMessage) : ResultMessage :=
  { work.failure "" with status := "success", result := .object [] }

/-- A unit with the id and an arbitrary job. -/
def WorkUnitMessage.named (id : String) : WorkUnitMessage where
  testType := "ECHO"
  sourceFile := "/data/source.bin"
  permutation := "sequential"
  permutationSeed := none
  workUnitId := id
  seq := 0
  timestamp := ""
  producerId := "prod-1"
  job := .object [("payload", .string "")]
  sourceHash := none

def HandlerOutcome.result (work : WorkUnitMessage) : HandlerOutcome → ResultMessage
  | .returned result => result
  | .threw what => work.failure what

/-- Where a worker stands in worker_loop, in the order of its statements. -/
inductive WorkerPhase (κ : Type) where
  | loopTest
  | popping
  | taken (work : WorkUnitMessage)
  | active (work : WorkUnitMessage)
  | busy (work : WorkUnitMessage)
  | registered (work : WorkUnitMessage)
  /-- inside handler_->handle, with callback_mutex_ -/
  | handling (work : WorkUnitMessage)
  | handled (work : WorkUnitMessage) (result : ResultMessage)
  | erased (work : WorkUnitMessage) (result : ResultMessage)
  | inactive (work : WorkUnitMessage) (result : ResultMessage)
  /-- inside result_callback_, with callback_mutex_ -/
  | reporting (work : WorkUnitMessage) (result : ResultMessage) (rest : List (κ → κ))
  | reported (result : ResultMessage)
  | tallied
  | idle
  | drained
  /-- inside idle_callback_, with callback_mutex_ -/
  | notifying (rest : List (κ → κ))
  | exited

def WorkerPhase.hasExited {κ : Type} : WorkerPhase κ → Bool
  | .exited => true
  | _ => false

/-- What the workers and the owner of the pool share. -/
structure PoolShared (κ : Type) where
  queue : BoundedQueue WorkUnitMessage
  stopRequested : Bool
  /-- the worker that holds it -/
  callbackMutex : Option Nat
  activeWork : KeyedStore String WorkUnitMessage WorkUnitMessage.workUnitId
  idleCount : UInt64
  activeCount : UInt64
  totalCompleted : UInt64
  totalFailed : UInt64
  /-- what the callbacks capture -/
  captured : κ
  /-- the units that the handler is through with, and its results, oldest first -/
  processed : List (WorkUnitMessage × ResultMessage)
  /-- the units whose result went to result_callback_, oldest first -/
  passed : List (WorkUnitMessage × ResultMessage)

/-- Where the owner stands: submitting, in the loop of drain_pending, in front of its
second critical section, behind drain_pending, in the joins of shutdown, behind them. -/
inductive OwnerPhase where
  | submitting
  | popping (pending : List WorkUnitMessage)
  | collecting (pending : List WorkUnitMessage)
  | drained (pending : List WorkUnitMessage)
  | joining (pending : List WorkUnitMessage)
  | returned (pending : List WorkUnitMessage)

structure ThreadPool (κ : Type) where
  shared : PoolShared κ
  workers : List (WorkerPhase κ)
  owner : OwnerPhase
  submitted : List WorkUnitMessage
  /-- what drain_pending took out of the queue -/
  drawn : List WorkUnitMessage

inductive PoolEvent where
  | submit (work : WorkUnitMessage)
  /-- the signal handler -/
  | requestStop
  | worker (i : Nat)
  | handlerReturns (i : Nat) (outcome : HandlerOutcome)
  | owner

namespace ThreadPool

variable {κ : Type}

/-- The number of threads that the constructor decides on. -/
def numThreads (hardwareConcurrency requested : UInt64) : UInt64 :=
  if requested = 0 then if hardwareConcurrency = 0 then 4 else hardwareConcurrency else requested

/-- A pool of `size` threads, started. -/
def start (size : UInt64) (captured : κ) : ThreadPool κ where
  shared :=
    { queue := .new 4096
      stopRequested := false
      callbackMutex := none
      activeWork := .empty
      idleCount := size
      activeCount := 0
      totalCompleted := 0
      totalFailed := 0
      captured := captured
      processed := []
      passed := [] }
  workers := List.replicate size.toNat .loopTest
  owner := .submitting
  submitted := []
  drawn := []

/-- The next access of worker `i`; `none` while it waits, for the queue, for the mutex or
for its handler. -/
def stepWorker (config : PoolConfig κ) (i : Nat) (s : PoolShared κ) :
    WorkerPhase κ → Option (WorkerPhase κ × PoolShared κ)
  | .loopTest => some (if s.stopRequested then .exited else .popping, s)
  | .popping =>
    match s.queue.pop with
    | none => none
    | some (.error _) => some (.exited, s)
    | some (.ok (work, queue)) => some (.taken work, { s with queue := queue })
  | .taken work => some (.active work, { s with activeCount := s.activeCount + 1 })
  | .active work => some (.busy work, { s with idleCount := s.idleCount - 1 })
  | .busy work => some (.registered work, { s with activeWork := s.activeWork.put work })
  | .registered work =>
    if s.callbackMutex = none then
      if config.hasHandler then some (.handling work, { s with callbackMutex := some i })
      else
        let result := work.failure "no handler registered"
        some (.handled work result, { s with processed := s.processed ++ [(work, result)] })
    else none
  | .handling _ => none
  | .handled work result =>
    some (.erased work result, { s with activeWork := s.activeWork.erase work.workUnitId })
  | .erased work result => some (.inactive work result, { s with activeCount := s.activeCount - 1 })
  | .inactive work result =>
    if s.callbackMutex = none then
      match config.resultCallback with
      | none => some (.reported result, s)
      | some callback =>
        some (.reporting work result (callback result),
          { s with callbackMutex := some i, passed := s.passed ++ [(work, result)] })
    else none
  | .reporting work result (effect :: rest) =>
    some (.reporting work result rest, { s with captured := effect s.captured })
  | .reporting _ result [] => some (.reported result, { s with callbackMutex := none })
  | .reported result =>
    some (.tallied,
      if result.status = "success" then { s with totalCompleted := s.totalCompleted + 1 }
      else { s with totalFailed := s.totalFailed + 1 })
  | .tallied => some (.idle, { s with idleCount := s.idleCount + 1 })
  | .idle => some (if s.queue.empty then .drained else .loopTest, s)
  | .drained =>
    if s.callbackMutex = none then
      match config.idleCallback with
      | none => some (.loopTest, s)
      | some callback =>
        some (.notifying (callback s.idleCount), { s with callbackMutex := some i })
    else none
  | .notifying (effect :: rest) => some (.notifying rest, { s with captured := effect s.captured })
  | .notifying [] => some (.loopTest, { s with callbackMutex := none })
  | .exited => none

/-- handler_->handle ends and callback_mutex_ is released. -/
def stepHandler (outcome : HandlerOutcome) (s : PoolShared κ) :
    WorkerPhase κ → Option (WorkerPhase κ × PoolShared κ)
  | .handling work =>
    let result := outcome.result work
    some (.handled work result,
      { s with callbackMutex := none, processed := s.processed ++ [(work, result)] })
  | _ => none

/-- Worker `i` takes the step, the others stand still. -/
def moveWorker (s : ThreadPool κ) (i : Nat)
    (move : WorkerPhase κ → Option (WorkerPhase κ × PoolShared κ)) : Option (ThreadPool κ) :=
  match s.workers[i]? with
  | none => none
  | some phase =>
    (move phase).map fun (next, shared) =>
      { s with shared := shared, workers := s.workers.set i next }

/-- drain_pending, then shutdown. -/
def stepOwner (s : ThreadPool κ) : Option (ThreadPool κ) :=
  match s.owner with
  | .submitting => some { s with owner := .popping [] }
  | .popping pending =>
    match s.shared.queue.tryPop with
    | none => some { s with owner := .collecting pending }
    | some (work, queue) =>
      some { s with
        owner := .popping (pending ++ [work])
        shared := { s.shared with queue := queue }
        drawn := s.drawn ++ [work] }
  | .collecting pending =>
    some { s with
      owner := .drained (pending ++ s.shared.activeWork.items)
      shared := { s.shared with activeWork := .empty } }
  | .drained pending =>
    some { s with
      owner := .joining pending
      shared := { s.shared with queue := s.shared.queue.shutdown } }
  | .joining pending =>
    if s.workers.all WorkerPhase.hasExited then some { s with owner := .returned pending } else none
  | .returned _ => none

end ThreadPool

/-- Any number of workers and the owner of the pool. -/
def poolSystem {κ : Type} (config : PoolConfig κ) : TransitionSystem (ThreadPool κ) PoolEvent where
  step s
    | .submit work =>
      match s.owner with
      | .submitting =>
        (s.shared.queue.push work).map fun queue =>
          { s with
            shared := { s.shared with queue := queue }
            submitted := s.submitted ++ [work] }
      | _ => none
    | .requestStop => some { s with shared := { s.shared with stopRequested := true } }
    | .worker i => s.moveWorker i (ThreadPool.stepWorker config i s.shared)
    | .handlerReturns i outcome => s.moveWorker i (ThreadPool.stepHandler outcome s.shared)
    | .owner => s.stepOwner

end PnC.Source
