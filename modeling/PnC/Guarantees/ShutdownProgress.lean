import Mathlib.Data.Prod.Lex
import PnC.Guarantees.ConsumerShutdown
import PnC.Guarantees.PoolParallelism
import PnC.Library.Inevitability
import PnC.Source.ConsumerProcess
import PnC.Source.ConsumerResults
import PnC.Source.EchoHandler
import PnC.Source.PoolAccounting
import PnC.Source.PoolPotential

/-!
# What keeps a shutdown going

Once shutdown has begun every step of the consumer lowers a measure, and some step can be
taken until shutdown is through, unless the receiver waits for room in a queue that no worker
will look at again. Without a stop signal it does not come to that.
-/
namespace PnC.Guarantees.ShutdownProgress

open PnC.Library PnC.Source
open PoolParallelism (MutexHeldOnce)

/-! ## Some worker can move -/

section Pool

variable {κ : Type} {config : PoolConfig κ} {pool after : ThreadPool κ} {event : PoolEvent}

theorem stepWorker_moves {i : Nat} {s : PoolShared κ} {phase : WorkerPhase κ}
    (free : s.callbackMutex = none) (flows : s.queue.buffer ≠ [] ∨ s.queue.shutDown = true)
    (outside : phase.holdsMutex = 0) (running : phase.hasExited = false) :
    (ThreadPool.stepWorker config i s phase).isSome = true := by
  cases phase with
  | popping =>
    simp only [ThreadPool.stepWorker, BoundedQueue.pop]
    cases items : s.queue.buffer with
    | nil =>
      obtain filled | down := flows
      · exact absurd items filled
      · simp [down]
    | cons item rest => rfl
  | registered work =>
    simp only [ThreadPool.stepWorker, free]
    cases config.hasHandler <;> rfl
  | inactive work result =>
    simp only [ThreadPool.stepWorker, free]
    cases config.resultCallback <;> rfl
  | drained =>
    simp only [ThreadPool.stepWorker, free]
    cases config.idleCallback <;> rfl
  | handling | reporting | notifying => cases outside
  | exited => cases running
  | _ => rfl

theorem moveWorker_moves {i : Nat} {phase : WorkerPhase κ}
    {move : WorkerPhase κ → Option (WorkerPhase κ × PoolShared κ)}
    (here : pool.workers[i]? = some phase) (moves : (move phase).isSome = true) :
    ∃ after, pool.moveWorker i move = some after := by
  refine Option.isSome_iff_exists.mp ?_
  rw [ThreadPool.moveWorker, here]
  simpa using moves

/-- Where the mutex is held there is a next step: the handler can return, and a callback goes
on to its end. -/
theorem holder_moves {i : Nat} {phase : WorkerPhase κ} (here : pool.workers[i]? = some phase)
    (inside : phase.holdsMutex ≠ 0) :
    (∃ after, (poolSystem config).step pool (.worker i) = some after) ∨
      ∃ after, (poolSystem config).step pool (.handlerReturns i (.threw "")) = some after := by
  cases phase with
  | handling work => exact .inr (moveWorker_moves here rfl)
  | reporting work result rest => exact .inl (moveWorker_moves here (by cases rest <;> rfl))
  | notifying rest => exact .inl (moveWorker_moves here (by cases rest <;> rfl))
  | _ => exact absurd rfl inside

/-- While some worker has not ended and none has to wait for the queue, one of them moves. -/
theorem someone_moves (once : MutexHeldOnce pool)
    (flows : pool.shared.queue.buffer ≠ [] ∨ pool.shared.queue.shutDown = true)
    (busy : ¬ pool.workers.all WorkerPhase.hasExited = true) :
    ∃ i, (∃ after, (poolSystem config).step pool (.worker i) = some after) ∨
      ∃ after, (poolSystem config).step pool (.handlerReturns i (.threw "")) = some after := by
  by_cases held : ∃ phase ∈ pool.workers, phase.holdsMutex ≠ 0
  · obtain ⟨phase, member, inside⟩ := held
    obtain ⟨i, here⟩ := List.mem_iff_getElem?.mp member
    exact ⟨i, holder_moves here inside⟩
  · push Not at held
    have free : pool.shared.callbackMutex = none := by
      have none_ : pool.total WorkerPhase.holdsMutex = 0 :=
        List.sum_eq_zero (by simpa using held)
      rw [once, PoolParallelism.mutexTaken] at none_
      split at none_
      next free => exact free
      next => cases none_
    obtain ⟨phase, member, running⟩ : ∃ phase ∈ pool.workers, phase.hasExited = false := by
      simpa using busy
    obtain ⟨i, here⟩ := List.mem_iff_getElem?.mp member
    exact ⟨i, .inl (moveWorker_moves here
      (stepWorker_moves free flows (held phase member) running))⟩

end Pool

/-! ## What holds of a consumer and its pool -/

/-- The queue is shut down behind the loop of drain_pending, by ThreadPool::shutdown. -/
def Closing (pool : ThreadPool Captured) : Prop :=
  match pool.owner with
  | .joining _ | .returned _ => pool.shared.queue.shutDown = true
  | _ => True

/-- A worker leaves its loop after a signal or a shutdown of the queue. -/
def Exits (pool : ThreadPool Captured) : Prop :=
  ∀ phase ∈ pool.workers, phase.hasExited = true →
    pool.shared.stopRequested = true ∨ pool.shared.queue.shutDown = true

structure Sane (pool : ThreadPool Captured) : Prop where
  accounted : pool.Accounted
  once : MutexHeldOnce pool
  closing : Closing pool
  roomy : 0 < pool.shared.queue.capacity
  exits : Exits pool

structure Wired (s : Consumer) : Prop where
  ready : s.pool.isSome = s.receiver.fileReady
  hand : ∀ work, s.phase.unit? = some work → s.pool.isSome = true
  submits : ∀ pool, s.pool = some pool → s.phase ≠ .left → pool.owner = .submitting
  sane : ∀ pool, s.pool = some pool → Sane pool

/-- What a step of a worker leaves alone. -/
theorem workerStep_frame {config : PoolConfig Captured} {i : Nat} {s t : PoolShared Captured}
    {phase next : WorkerPhase Captured} (step : WorkerStep config i s phase next t) :
    t.queue.shutDown = s.queue.shutDown ∧ t.queue.capacity = s.queue.capacity ∧
      t.stopRequested = s.stopRequested := by
  cases step with
  | pop work queue popped =>
    rw [(BoundedQueue.pop_ok popped).2]
    exact ⟨rfl, rfl, rfl⟩
  | _ => exact ⟨rfl, rfl, rfl⟩

theorem closing_step {config : PoolConfig Captured} {pool after : ThreadPool Captured}
    (step : PoolStep config pool after) (closing : Closing pool) : Closing after := by
  cases step with
  | submit work queue standing pushed =>
    rw [Closing, standing]
    trivial
  | requestStop => exact closing
  | worker left right phase next shared before step =>
    unfold Closing at closing ⊢
    dsimp only
    rw [(workerStep_frame step).1]
    exact closing
  | owner next shared drawn step =>
    cases step with
    | joined pending standing exited =>
      rw [Closing, standing] at closing
      exact closing
    | shutDown => exact rfl
    | _ => trivial

theorem roomy_step {config : PoolConfig Captured} {pool after : ThreadPool Captured}
    (step : PoolStep config pool after) :
    after.shared.queue.capacity = pool.shared.queue.capacity := by
  cases step with
  | submit work queue standing pushed =>
    obtain ⟨-, rfl⟩ | ⟨-, -, rfl⟩ := BoundedQueue.push_some pushed
    · rfl
    · rfl
  | requestStop => rfl
  | worker left right phase next shared before step => exact (workerStep_frame step).2.1
  | owner next shared drawn step =>
    cases step with
    | pop pending work queue standing popped =>
      dsimp only
      rw [(BoundedQueue.tryPop_some popped).2]
    | _ => rfl

theorem exits_step {config : PoolConfig Captured} {pool after : ThreadPool Captured}
    (step : PoolStep config pool after) (exits : Exits pool) : Exits after := by
  intro phase member exited
  cases step with
  | submit work queue standing pushed =>
    obtain ⟨-, rfl⟩ | ⟨-, -, rfl⟩ := BoundedQueue.push_some pushed
    · exact exits phase member exited
    · exact exits phase member exited
  | requestStop => exact .inl rfl
  | worker left right moved next shared before step =>
    obtain ⟨down, -, stop⟩ := workerStep_frame step
    dsimp only at member ⊢
    rw [down, stop]
    simp only [List.mem_append, List.mem_cons] at member
    obtain elsewhere | rfl | elsewhere := member
    · exact exits phase (by simp [before, elsewhere]) exited
    · cases step with
      | stop requested => exact .inl requested
      | queueDown what popped => exact .inr (BoundedQueue.pop_error popped).2
      | _ => cases exited
    · exact exits phase (by simp [before, elsewhere]) exited
  | owner next shared drawn step =>
    cases step with
    | pop pending work queue standing popped =>
      dsimp only
      rw [(BoundedQueue.tryPop_some popped).2]
      exact exits phase member exited
    | shutDown => exact .inr rfl
    | _ => exact exits phase member exited

theorem sane_start (size : UInt64) : Sane (.start size .new) := by
  refine ⟨ThreadPool.accounted_start size _, PoolParallelism.mutexHeldOnce_start size _, trivial,
    show 0 < 4096 by decide, ?_⟩
  intro phase member exited
  obtain rfl := List.eq_of_mem_replicate member
  cases exited

theorem sane_step {config : PoolConfig Captured} {pool after : ThreadPool Captured}
    (registered : config.resultCallback.isSome = true) (step : PoolStep config pool after)
    (sane : Sane pool) : Sane after where
  accounted := ThreadPool.accounted_step registered step sane.accounted
  once := PoolParallelism.mutexHeldOnce_step step sane.once
  closing := closing_step step sane.closing
  roomy := roomy_step step ▸ sane.roomy
  exits := exits_step step sane.exits

theorem Sane.capture {pool : ThreadPool Captured} (sane : Sane pool)
    (effect : Captured → Captured) : Sane (Consumer.capture pool effect) :=
  ⟨⟨sane.accounted.drains, sane.accounted.balance⟩, sane.once, sane.closing, sane.roomy,
    sane.exits⟩

/-- Only the owner itself goes on in drain_pending and shutdown. -/
theorem owner_kept {config : PoolConfig Captured} {pool after : ThreadPool Captured}
    {event : PoolEvent} (taken : (poolSystem config).step pool event = some after)
    (other : event ≠ .owner) : after.owner = pool.owner := by
  cases event with
  | submit work =>
    simp only [poolSystem] at taken
    split at taken
    next =>
      obtain ⟨queue, -, rfl⟩ := Option.map_eq_some_iff.mp taken
      rfl
    next => cases taken
  | requestStop =>
    cases taken
    rfl
  | worker i =>
    obtain ⟨left, phase, right, next, shared, -, -, -, rfl⟩ := ThreadPool.moveWorker_some taken
    rfl
  | handlerReturns i outcome =>
    obtain ⟨left, phase, right, next, shared, -, -, -, rfl⟩ := ThreadPool.moveWorker_some taken
    rfl
  | owner => exact absurd rfl other

variable {config : ConsumerConfig} {s t : Consumer} {event : ConsumerEvent}

theorem wired_start : Wired .start := ⟨rfl, nofun, nofun, nofun⟩

/-- The receiver goes on, and leaves the pool as it is. -/
theorem wired_receiver (wired : Wired s) (same : t.pool = s.pool)
    (ready : t.receiver.fileReady = s.receiver.fileReady)
    (hand : ∀ work, t.phase.unit? = some work → s.pool.isSome = true)
    (stays : t.phase ≠ .left → s.phase ≠ .left) : Wired t := by
  refine ⟨?_, fun work held => same ▸ hand work held, ?_, ?_⟩
  · rw [ready, same]
    exact wired.ready
  · intro pool present inside
    exact wired.submits pool (same ▸ present) (stays inside)
  · intro pool present
    exact wired.sane pool (same ▸ present)

/-- The pool goes on, and the receiver stays in front of its end. -/
theorem wired_pool {after : ThreadPool Captured} (ready : t.receiver.fileReady = true)
    (present : t.pool = some after) (submits : t.phase ≠ .left → after.owner = .submitting)
    (sane : Sane after) : Wired t := by
  have some_ : t.pool.isSome = true := by rw [present]; rfl
  refine ⟨some_.trans ready.symm, fun _ _ => some_, ?_, ?_⟩
  · intro pool here inside
    cases present.symm.trans here
    exact submits inside
  · intro pool here
    cases present.symm.trans here
    exact sane

/-- Beside a pool the files are ready. -/
theorem Wired.fileReady (wired : Wired s) {pool : ThreadPool Captured}
    (present : s.pool = some pool) : s.receiver.fileReady = true := by
  rw [← wired.ready, present]
  rfl

theorem wired_step (wired : Wired s) (taken : (consumerSystem config).step s event = some t) :
    Wired t := by
  cases consumer_moves taken with
  | loopTest standing =>
    refine wired_receiver wired rfl rfl ?_ (fun _ => by simp [standing])
    intro work held
    dsimp only at held
    split at held <;> cases held
  | ignored bytes fs server r standing passed =>
    exact wired_receiver wired rfl (Receiver.pass_fileReady passed) nofun
      (fun _ => by simp [standing])
  | threw bytes fs server r what standing passed =>
    exact wired_receiver wired rfl (Receiver.pass_fileReady passed) nofun
      (fun inside => absurd rfl inside)
  | first bytes fs server r work standing passed =>
    obtain ⟨-, ready⟩ : s.receiver.fileReady = false ∧ r.fileReady = true :=
      Receiver.pass_fileReady passed
    exact wired_pool ready rfl (fun _ => rfl) (sane_start config.poolSize)
  | checks bytes fs server r work standing passed =>
    obtain ⟨before, after⟩ := Receiver.pass_fileReady passed
    exact wired_receiver wired rfl (after.trans before.symm)
      (fun _ _ => wired.ready.trans before)
      (fun _ => by simp [standing])
  | recvFails standing =>
    exact wired_receiver wired rfl rfl nofun (fun inside => absurd rfl inside)
  | fresh work pool standing present =>
    exact wired_receiver wired rfl rfl (fun _ _ => by simp [present]) (fun _ => by simp [standing])
  | repeated work pool standing present =>
    exact wired_receiver wired rfl rfl (fun _ _ => by simp [present]) (fun _ => by simp [standing])
  | answer timestamp work pool standing present =>
    exact wired_pool (wired.fileReady present) rfl
      (fun _ => wired.submits pool present (by simp [standing]))
      ((wired.sane pool present).capture _)
  | push work pool after standing present pushed =>
    have owner := wired.submits pool present (by simp [standing])
    exact wired_pool (wired.fileReady present) rfl
      (fun _ => (owner_kept pushed (by simp)).trans owner)
      (sane_step rfl (ThreadPool.pool_steps pushed) (wired.sane pool present))
  | pool event pool after present allowed step =>
    refine wired_pool (wired.fileReady present) rfl ?_
      (sane_step rfl (ThreadPool.pool_steps step) (wired.sane pool present))
    intro inside
    by_cases owner : event = .owner
    · subst owner
      unfold Consumer.allows at allowed
      dsimp only at allowed
      split at allowed
      next left => exact absurd left inside
      next => cases allowed
    · exact (owner_kept step owner).trans (wired.submits pool present inside)
  | stop => exact wired_receiver wired rfl rfl wired.hand id
  | fail timestamp work rest pool left present =>
    exact wired_pool (wired.fileReady present) rfl
      (fun inside => wired.submits pool present inside) ((wired.sane pool present).capture _)

/-! ## The measure -/

/-- The steps that the receiver takes at most once shutdown has begun. -/
def rank : ReceiverPhase → Nat
  | .left => 0
  | .atLoop => 1
  | .answering _ | .submitting _ => 2
  | .checking _ => 3
  | .receiving => 4

def potential (s : Consumer) : Nat := (s.pool.map ThreadPool.potential).getD 0

def effects (s : Consumer) : Nat := (s.pool.map ThreadPool.effects).getD 0

/-- The receiver goes first, then the pool, then the loop of shutdown, then a callback. -/
def measure (s : Consumer) : Nat ×ₗ Nat ×ₗ Nat ×ₗ Nat :=
  toLex (rank s.phase, toLex (potential s, toLex (s.failing.length, effects s)))

/-- A signal that has been given is not given again. -/
def Fresh (s : Consumer) : ConsumerEvent → Prop
  | .stop => s.running = true
  | .pool .requestStop => ∀ pool, s.pool = some pool → pool.shared.stopRequested = false
  | _ => True

theorem measure_of_rank (lower : rank t.phase < rank s.phase) : measure t < measure s :=
  Prod.Lex.toLex_lt_toLex.mpr (.inl lower)

theorem measure_lowers (stopped : s.running = false) (fresh : Fresh s event)
    (taken : (consumerSystem config).step s event = some t) : measure t < measure s := by
  cases consumer_moves taken with
  | loopTest standing => exact measure_of_rank (by simp [rank, standing, stopped])
  | ignored bytes fs server r standing => exact measure_of_rank (by simp [rank, standing])
  | threw bytes fs server r what standing => exact measure_of_rank (by simp [rank, standing])
  | first bytes fs server r work standing => exact measure_of_rank (by simp [rank, standing])
  | checks bytes fs server r work standing => exact measure_of_rank (by simp [rank, standing])
  | recvFails standing => exact measure_of_rank (by simp [rank, standing])
  | fresh work pool standing => exact measure_of_rank (by simp [rank, standing])
  | repeated work pool standing => exact measure_of_rank (by simp [rank, standing])
  | answer timestamp work pool standing => exact measure_of_rank (by simp [rank, standing])
  | push work pool after standing => exact measure_of_rank (by simp [rank, standing])
  | pool event pool after present allowed step =>
    have signal : event = .requestStop → pool.shared.stopRequested = false := by
      intro same
      subst same
      exact fresh pool present
    have closed (work : WorkUnitMessage) : event ≠ .submit work := by
      intro same
      subst same
      cases allowed
    refine Prod.Lex.toLex_lt_toLex.mpr (.inr ⟨rfl, Prod.Lex.toLex_lt_toLex.mpr ?_⟩)
    obtain lower | ⟨same, owner, fewer⟩ := ThreadPool.step_nearer step closed signal
    · left
      simpa [potential, present] using lower
    · refine .inr ⟨by simp [potential, present, same], Prod.Lex.toLex_lt_toLex.mpr (.inr ?_)⟩
      refine ⟨?_, by simpa [effects, present] using fewer⟩
      rw [ConsumerShutdown.returnedPending_same owner]
  | stop => exact absurd fresh (by simp [Fresh, stopped])
  | fail timestamp work rest pool left present =>
    refine Prod.Lex.toLex_lt_toLex.mpr (.inr ⟨rfl, Prod.Lex.toLex_lt_toLex.mpr (.inr ⟨?_, ?_⟩)⟩)
    · simp only [potential, present]
      rfl
    · refine Prod.Lex.toLex_lt_toLex.mpr (.inl ?_)
      simp [left]

/-! ## Some step can be taken -/

/-- The receiver and the workers have been joined, and every pending unit returned. -/
def Finished (s : Consumer) : Prop :=
  s.phase = .left ∧ ∀ pool, s.pool = some pool →
    s.failing = [] ∧ (∃ pending, pool.owner = .returned pending) ∧
      pool.workers.all WorkerPhase.hasExited = true ∧ pool.shared.queue.buffer = []

/-- The receiver waits for room in a queue that no worker will look at again. -/
def Hung (s : Consumer) : Prop :=
  ∃ work pool, s.phase = .submitting work ∧ s.pool = some pool ∧
    pool.shared.queue.push work = none ∧ pool.workers.all WorkerPhase.hasExited = true

/-- Neither the first statement of shutdown nor a stop signal. -/
def isSignal : ConsumerEvent → Bool
  | .stop | .pool .requestStop => true
  | _ => false

theorem fresh_of_not_signal (own : isSignal event = false) : Fresh s event := by
  unfold isSignal at own
  unfold Fresh
  split at own
  · cases own
  · cases own
  · trivial

/-- A step can be taken without a further signal. -/
def Moves (config : ConsumerConfig) (s : Consumer) : Prop :=
  ∃ e, isSignal e = false ∧ ((consumerSystem config).step s e).isSome = true

theorem moves_of_pool {pool : ThreadPool Captured} (event : PoolEvent)
    (present : s.pool = some pool) (allowed : s.allows pool event = true)
    (own : isSignal (.pool event) = false)
    (moves : ∃ after, (poolSystem config.pool).step pool event = some after) : Moves config s := by
  obtain ⟨after, step⟩ := moves
  refine ⟨.pool event, own, ?_⟩
  simp only [consumerSystem, present, allowed, step]
  rfl

/-- A worker that is not held up by the queue goes on. -/
theorem moves_of_busy {pool : ThreadPool Captured} (present : s.pool = some pool)
    (once : MutexHeldOnce pool)
    (flows : pool.shared.queue.buffer ≠ [] ∨ pool.shared.queue.shutDown = true)
    (busy : ¬ pool.workers.all WorkerPhase.hasExited = true) : Moves config s := by
  obtain ⟨i, moves | moves⟩ := @someone_moves _ config.pool pool once flows busy
  · exact moves_of_pool (.worker i) present rfl rfl moves
  · exact moves_of_pool (.handlerReturns i (.threw "")) present rfl rfl moves

/-- The receiver is in front of a push. -/
theorem moves_of_submitting (wired : Wired s) {work : WorkUnitMessage}
    (standing : s.phase = .submitting work) : Hung s ∨ Moves config s := by
  obtain ⟨pool, present⟩ := Option.isSome_iff_exists.mp (wired.hand work (by rw [standing]; rfl))
  have owner := wired.submits pool present (by simp [standing])
  have sane := wired.sane pool present
  cases pushed : pool.shared.queue.push work with
  | some queue =>
    refine .inr ⟨.push, rfl, ?_⟩
    simp only [consumerSystem, Consumer.stepReceiver, standing, present, poolSystem, owner, pushed]
    rfl
  | none =>
    by_cases ended : pool.workers.all WorkerPhase.hasExited = true
    · exact .inl ⟨work, pool, standing, present, pushed, ended⟩
    · have full : pool.shared.queue.buffer ≠ [] := by
        intro empty
        have roomy := sane.roomy
        simp [BoundedQueue.push, empty, roomy] at pushed
        split at pushed <;> cases pushed
      exact .inr (moves_of_busy present sane.once (.inl full) ended)

/-- The receiver has left its loop: shutdown goes on with the pool. -/
theorem moves_of_left (wired : Wired s) (stopped : s.running = false)
    (standing : s.phase = .left) : Finished s ∨ Moves config s := by
  cases present : s.pool with
  | none => exact .inl ⟨standing, fun pool here => by rw [present] at here; cases here⟩
  | some pool =>
    have sane := wired.sane pool present
    cases failing : s.failing with
    | cons work rest =>
      refine .inr ⟨.fail "", rfl, ?_⟩
      simp only [consumerSystem, failing, present]
      rfl
    | nil =>
      have allowed : s.allows pool .owner = true := by
        simp [Consumer.allows, standing, stopped, failing]
      have owner (moves : ∃ after, pool.stepOwner = some after) : Moves config s :=
        moves_of_pool .owner present allowed rfl moves
      cases phase : pool.owner with
      | submitting | collecting | drained =>
        exact .inr (owner ⟨_, by rw [ThreadPool.stepOwner, phase]⟩)
      | popping pending =>
        refine .inr (owner ?_)
        rw [ThreadPool.stepOwner, phase]
        dsimp only
        split
        · exact ⟨_, rfl⟩
        · exact ⟨_, rfl⟩
      | joining pending =>
        have down := sane.closing
        rw [Closing, phase] at down
        by_cases ended : pool.workers.all WorkerPhase.hasExited = true
        · refine .inr (owner ⟨{ pool with owner := .returned pending }, ?_⟩)
          simp [ThreadPool.stepOwner, phase, ended]
        · exact .inr (moves_of_busy present sane.once (.inr down) ended)
      | returned pending =>
        have drains := sane.accounted.drains
        rw [ThreadPool.Drains, phase] at drains
        refine .inl ⟨standing, fun other here => ?_⟩
        cases present.symm.trans here
        exact ⟨failing, ⟨pending, phase⟩, drains.2.2, drains.2.1⟩

theorem finished_or_moves (wired : Wired s) (stopped : s.running = false) :
    (Finished s ∨ Hung s) ∨ Moves config s := by
  cases standing : s.phase with
  | atLoop =>
    refine .inr ⟨.loopTest, rfl, ?_⟩
    simp only [consumerSystem, Consumer.stepReceiver, standing]
    rfl
  | receiving =>
    refine .inr ⟨.recvFails, rfl, ?_⟩
    simp only [consumerSystem, Consumer.stepReceiver, standing]
    rfl
  | checking work =>
    obtain ⟨pool, present⟩ := Option.isSome_iff_exists.mp (wired.hand work (by rw [standing]; rfl))
    refine .inr ⟨.check, rfl, ?_⟩
    simp only [consumerSystem, Consumer.stepReceiver, standing, present]
    rfl
  | answering work =>
    obtain ⟨pool, present⟩ := Option.isSome_iff_exists.mp (wired.hand work (by rw [standing]; rfl))
    refine .inr ⟨.answer "", rfl, ?_⟩
    simp only [consumerSystem, Consumer.stepReceiver, standing, present]
    rfl
  | submitting work => exact (moves_of_submitting wired standing).imp_left .inr
  | left => exact (moves_of_left wired stopped standing).imp_left .inl

/-! ## What shutdown comes to -/

theorem stopped_step (stopped : s.running = false)
    (taken : (consumerSystem config).step s event = some t) : t.running = false := by
  cases consumer_moves taken <;> first | exact stopped | rfl

theorem progress (wired : Wired s) (stopped : s.running = false) :
    (Finished s ∨ Hung s) ∨
      ∃ e t, isSignal e = false ∧ (consumerSystem config).step s e = some t := by
  obtain done | ⟨e, own, moves⟩ := @finished_or_moves config s wired stopped
  · exact .inl done
  · obtain ⟨t, taken⟩ := Option.isSome_iff_exists.mp moves
    exact .inr ⟨e, t, own, taken⟩

/-! ## Without a stop signal -/

/-- There are workers, and no signal sends them away. -/
def Unstopped (s : Consumer) : Prop :=
  ∀ pool, s.pool = some pool → pool.shared.stopRequested = false ∧ 0 < pool.workers.length

theorem moved_length {pool after : ThreadPool Captured} {i : Nat}
    {move : WorkerPhase Captured → Option (WorkerPhase Captured × PoolShared Captured)}
    (moved : pool.moveWorker i move = some after) :
    after.workers.length = pool.workers.length := by
  obtain ⟨left, phase, right, next, shared, -, before, -, rfl⟩ := ThreadPool.moveWorker_some moved
  simp [before]

theorem unstopped_pool {config : PoolConfig Captured} {pool after : ThreadPool Captured}
    {event : PoolEvent} (taken : (poolSystem config).step pool event = some after)
    (other : event ≠ .requestStop) :
    after.shared.stopRequested = pool.shared.stopRequested ∧
      after.workers.length = pool.workers.length := by
  cases event with
  | submit work =>
    simp only [poolSystem] at taken
    split at taken
    next =>
      obtain ⟨queue, -, rfl⟩ := Option.map_eq_some_iff.mp taken
      exact ⟨rfl, rfl⟩
    next => cases taken
  | requestStop => exact absurd rfl other
  | worker i =>
    refine ⟨?_, moved_length taken⟩
    obtain ⟨left, phase, right, next, shared, rfl, -, move, rfl⟩ :=
      ThreadPool.moveWorker_some taken
    exact (workerStep_frame (ThreadPool.worker_steps move)).2.2
  | handlerReturns i outcome =>
    refine ⟨?_, moved_length taken⟩
    obtain ⟨left, phase, right, next, shared, rfl, -, move, rfl⟩ :=
      ThreadPool.moveWorker_some taken
    have step : WorkerStep config left.length pool.shared phase next shared :=
      ThreadPool.handler_steps move
    exact (workerStep_frame step).2.2
  | owner =>
    obtain ⟨next, shared, drawn, step, rfl⟩ := ThreadPool.owner_steps taken
    cases step <;> exact ⟨rfl, rfl⟩

theorem unstopped_step (size : config.poolSize ≠ 0) (unstopped : Unstopped s)
    (unsignalled : event ≠ .pool .requestStop)
    (taken : (consumerSystem config).step s event = some t) : Unstopped t := by
  cases consumer_moves taken with
  | first =>
    intro pool present
    cases present
    refine ⟨rfl, ?_⟩
    simp only [ThreadPool.start, List.length_replicate]
    exact Nat.pos_of_ne_zero fun none_ => size (UInt64.toNat_inj.mp none_)
  | push work pool after standing present pushed =>
    intro other here
    cases here
    obtain ⟨signal, workers⟩ := unstopped_pool pushed (by simp)
    rw [signal, workers]
    exact unstopped pool present
  | pool event pool after present allowed step =>
    intro other here
    cases here
    obtain ⟨signal, workers⟩ := unstopped_pool step (fun same => unsignalled (same ▸ rfl))
    rw [signal, workers]
    exact unstopped pool present
  | answer timestamp work pool standing present =>
    intro other here
    cases here
    exact unstopped pool present
  | fail timestamp work rest pool left present =>
    intro other here
    cases here
    exact unstopped pool present
  | _ => exact unstopped

theorem not_hung (wired : Wired s) (unstopped : Unstopped s) : ¬ Hung s := by
  intro hung
  obtain ⟨work, pool, standing, present, -, ended⟩ := hung
  have drains := (wired.sane pool present).accounted.drains
  rw [ThreadPool.Drains, wired.submits pool present (by simp [standing])] at drains
  obtain ⟨running, staffed⟩ := unstopped pool present
  have member := List.getElem_mem staffed
  obtain stop | down := (wired.sane pool present).exits _ member
    (List.all_eq_true.mp ended _ member)
  · rw [running] at stop
    cases stop
  · rw [drains.2] at down
    cases down

end PnC.Guarantees.ShutdownProgress
