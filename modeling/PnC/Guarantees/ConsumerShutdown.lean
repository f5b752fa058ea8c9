import PnC.Source.ConsumerSteps

/-!
# One final result for each unit

drain_pending gives shutdown the units that workers are still executing, as well as the
ones that are queued. Shutdown returns all of them as failures and then waits for the
workers, which pass the results of the former to the result callback.
-/
namespace PnC.Guarantees.ConsumerShutdown

open PnC.Library PnC.Source

variable {config : ConsumerConfig}

/-- The results of the pool and of shutdown for a unit id: calls of the result callback,
and failures "consumer shutdown". -/
def finalResults (pool : ThreadPool Captured) (failed : List WorkUnitMessage) (id : String) : Nat :=
  pool.shared.passed.countP (·.1.workUnitId = id) + failed.countP (·.workUnitId = id)

def ReportedOnce (s : Consumer) : Prop :=
  ∀ pool, s.pool = some pool → ∀ id, finalResults pool s.failed id ≤ 1

/-- A unit is submitted under an id that was not submitted before; no worker is executing
a unit when drain_pending looks for such units. -/
def CleanStep (s : Consumer) : ConsumerEvent → Prop
  | .push =>
    ∀ work pool, s.phase = .submitting work → s.pool = some pool →
      work.workUnitId ∉ pool.submitted.map WorkUnitMessage.workUnitId
  | .pool .owner =>
    ∀ pool pending, s.pool = some pool → pool.owner = .collecting pending →
      pool.shared.activeWork.items = []
  | _ => True

/-- What shutdown has returned and has still to return came out of the queue. -/
def FailsDrawn (pool : ThreadPool Captured) (failing failed : List WorkUnitMessage) : Prop :=
  match pool.owner with
  | .submitting | .popping _ | .collecting _ => failing = [] ∧ failed = []
  | _ => failed ++ failing = pool.drawn

structure Clean (pool : ThreadPool Captured) (failing failed : List WorkUnitMessage) : Prop where
  accounted : pool.Accounted
  distinct : (pool.submitted.map WorkUnitMessage.workUnitId).Nodup
  fails : FailsDrawn pool failing failed

def CleanConsumer (s : Consumer) : Prop :=
  match s.pool with
  | none => s.failing = [] ∧ s.failed = []
  | some pool => s.receiver.fileReady = true ∧ Clean pool s.failing s.failed

/-- A submitted unit is passed to the callback or returned by shutdown, not both. -/
theorem finalResults_le_one {pool : ThreadPool Captured} {failing failed : List WorkUnitMessage}
    (clean : Clean pool failing failed) (id : String) : finalResults pool failed id ≤ 1 := by
  have returned : failed.countP (·.workUnitId = id) ≤ pool.drawn.countP (·.workUnitId = id) := by
    have fails := clean.fails
    unfold FailsDrawn at fails
    split at fails
    next => simp [fails.2]
    next => simp [fails.2]
    next => simp [fails.2]
    next =>
      rw [← fails, List.countP_append]
      exact Nat.le_add_right ..
  have once : pool.submitted.countP (·.workUnitId = id) ≤ 1 := by
    have single := List.nodup_iff_count_le_one.mp clean.distinct id
    rwa [List.count, List.countP_map] at single
  have balance := congrArg (Multiset.countP (·.workUnitId = id)) clean.accounted.balance
  simp only [PoolShared.units, Multiset.countP_add, Multiset.coe_countP] at balance
  have passed : (pool.shared.passed.map Prod.fst).countP (·.workUnitId = id) =
      pool.shared.passed.countP (·.1.workUnitId = id) := by
    rw [List.countP_map]
    rfl
  unfold finalResults
  omega

theorem returnedPending_same {before after : ThreadPool Captured}
    (same : after.owner = before.owner) (failing : List WorkUnitMessage) :
    Consumer.returnedPending before after failing = failing := by
  unfold Consumer.returnedPending
  split
  next standing returned =>
    rw [same, standing] at returned
    cases returned
  next => rfl

/-- A step of a worker changes nothing that shutdown returns. -/
theorem clean_frame {pool after : ThreadPool Captured} {failing failed : List WorkUnitMessage}
    (step : PoolStep config.pool pool after) (owner : after.owner = pool.owner)
    (drawn : after.drawn = pool.drawn) (submitted : after.submitted = pool.submitted)
    (clean : Clean pool failing failed) :
    Clean after (Consumer.returnedPending pool after failing) failed := by
  rw [returnedPending_same owner]
  refine ⟨ThreadPool.accounted_step rfl step clean.accounted, submitted ▸ clean.distinct, ?_⟩
  unfold FailsDrawn
  rw [owner, drawn]
  exact clean.fails

theorem clean_owner {pool after : ThreadPool Captured} {failing failed : List WorkUnitMessage}
    (moved : pool.stepOwner = some after)
    (idle : ∀ pending, pool.owner = .collecting pending → pool.shared.activeWork.items = [])
    (clean : Clean pool failing failed) :
    Clean after (Consumer.returnedPending pool after failing) failed := by
  obtain ⟨next, shared, drawn, step, rfl⟩ := ThreadPool.owner_steps moved
  refine ⟨ThreadPool.accounted_owner step clean.accounted, clean.distinct, ?_⟩
  have fails := clean.fails
  have drains := clean.accounted.drains
  cases step with
  | drain standing =>
    rw [FailsDrawn, standing] at fails
    simpa only [FailsDrawn, Consumer.returnedPending, standing] using fails
  | pop pending work queue standing popped =>
    rw [FailsDrawn, standing] at fails
    simpa only [FailsDrawn, Consumer.returnedPending, standing] using fails
  | queueEmpty pending standing popped =>
    rw [FailsDrawn, standing] at fails
    simpa only [FailsDrawn, Consumer.returnedPending, standing] using fails
  | collect pending standing =>
    rw [FailsDrawn, standing] at fails
    rw [ThreadPool.Drains, standing] at drains
    simp only [FailsDrawn, Consumer.returnedPending, standing, idle pending standing, fails.2,
      List.nil_append, List.append_nil]
    exact drains.1
  | shutDown pending standing =>
    rw [FailsDrawn, standing] at fails
    simpa only [FailsDrawn, Consumer.returnedPending, standing] using fails
  | joined pending standing exited =>
    rw [FailsDrawn, standing] at fails
    simpa only [FailsDrawn, Consumer.returnedPending, standing] using fails

theorem clean_pool {s : Consumer} {pool after : ThreadPool Captured} {event : PoolEvent}
    (allowed : s.allows pool event = true)
    (taken : (poolSystem config.pool).step pool event = some after)
    (idle : event = .owner → ∀ pending, pool.owner = .collecting pending →
      pool.shared.activeWork.items = [])
    (clean : Clean pool s.failing s.failed) :
    Clean after (Consumer.returnedPending pool after s.failing) s.failed := by
  have step := ThreadPool.pool_steps taken
  cases event with
  | submit work => cases allowed
  | requestStop =>
    cases taken
    exact clean_frame step rfl rfl rfl clean
  | worker i | handlerReturns i outcome =>
    obtain ⟨left, phase, right, next, shared, -, -, -, rfl⟩ := ThreadPool.moveWorker_some taken
    exact clean_frame step rfl rfl rfl clean
  | owner =>
    exact clean_owner taken (idle rfl) clean

theorem clean_push {pool after : ThreadPool Captured} {failing failed : List WorkUnitMessage}
    {work : WorkUnitMessage}
    (taken : (poolSystem config.pool).step pool (.submit work) = some after)
    (fresh : work.workUnitId ∉ pool.submitted.map WorkUnitMessage.workUnitId)
    (clean : Clean pool failing failed) : Clean after failing failed := by
  have accounted := ThreadPool.accounted_step rfl (ThreadPool.pool_steps taken) clean.accounted
  simp only [poolSystem] at taken
  split at taken
  next standing =>
    obtain ⟨queue, pushed, rfl⟩ := Option.map_eq_some_iff.mp taken
    refine ⟨accounted, ?_, clean.fails⟩
    rw [List.map_append, List.nodup_append]
    refine ⟨clean.distinct, List.nodup_singleton _, ?_⟩
    intro id member other last
    rw [List.map_singleton, List.mem_singleton] at last
    exact fun same => fresh (last ▸ same ▸ member)
  next => cases taken

theorem clean_capture {pool : ThreadPool Captured} {failing failed : List WorkUnitMessage}
    (effect : Captured → Captured) (clean : Clean pool failing failed) :
    Clean (Consumer.capture pool effect) failing failed :=
  ⟨⟨clean.accounted.drains, clean.accounted.balance⟩, clean.distinct, clean.fails⟩

theorem clean_fail {pool : ThreadPool Captured} {rest failed : List WorkUnitMessage}
    {work : WorkUnitMessage} (clean : Clean pool (work :: rest) failed) :
    Clean pool rest (failed ++ [work]) := by
  refine ⟨clean.accounted, clean.distinct, ?_⟩
  have fails := clean.fails
  unfold FailsDrawn at fails ⊢
  split at fails
  next => cases fails.1
  next => cases fails.1
  next => cases fails.1
  next => rw [List.append_assoc]; exact fails

theorem clean_step {s t : Consumer} {event : ConsumerEvent} (clean : CleanConsumer s)
    (guarded : CleanStep s event) (step : ConsumerStep config s event t) : CleanConsumer t := by
  unfold CleanConsumer at clean ⊢
  cases step with
  | quiet event running r phase kept ready => dsimp only; rw [ready]; exact clean
  | first bytes fs server r work standing before ready =>
    split at clean
    next absent =>
      refine ⟨ready, ?_⟩
      rw [clean.1, clean.2]
      exact ⟨ThreadPool.accounted_start _ _, List.nodup_nil, rfl, rfl⟩
    next pool present => cases before.symm.trans clean.1
  | fresh | repeated => exact clean
  | answer timestamp work pool note standing present =>
    rw [present] at clean
    exact ⟨clean.1, clean_capture _ clean.2⟩
  | push work pool after standing present taken =>
    rw [present] at clean
    exact ⟨clean.1, clean_push taken (guarded work pool standing present) clean.2⟩
  | pool event pool after present allowed taken =>
    rw [present] at clean
    refine ⟨clean.1, clean_pool allowed taken ?_ clean.2⟩
    intro owner pending standing
    subst owner
    exact guarded pool pending present standing
  | fail timestamp work rest pool failure failing present =>
    rw [present] at clean
    rw [failing] at clean
    exact ⟨clean.1, clean_capture _ (clean_fail clean.2)⟩

theorem clean_start : CleanConsumer .start := ⟨rfl, rfl⟩

/-- In a run that submits every id once, and in which no worker is executing a unit when
shutdown collects such units, every id has at most one final result. -/
theorem reported_once (config : ConsumerConfig) (events : List ConsumerEvent)
    (clean : (consumerSystem config).Along (fun s event _ => CleanStep s event) .start events) :
    (consumerSystem config).Along (fun _ _ after => ReportedOnce after) .start events := by
  apply TransitionSystem.along_of_invariant CleanConsumer _ _ clean_start clean
  · exact fun s event t kept guarded taken =>
      clean_step kept guarded (Consumer.consumer_steps taken)
  · intro s event t kept guarded taken pool present id
    have after := clean_step kept guarded (Consumer.consumer_steps taken)
    unfold CleanConsumer at after
    rw [present] at after
    exact finalResults_le_one after.2 id

/-- Shutdown finds the only unit in the queue. -/
def queuedRun : List ConsumerEvent :=
  [.loopTest, Consumer.unitFrame, .push, .stop, .loopTest, .pool .owner, .pool .owner,
    .pool .owner, .pool .owner, .fail ""]

theorem reported_once_queued :
    (consumerSystem Consumer.smallConsumer).Along (fun _ _ after => ReportedOnce after) .start
      queuedRun := by
  apply reported_once
  refine (Consumer.along_first _).mpr ⟨trivial, trivial, ?_⟩
  refine (TransitionSystem.along_cons rfl).mpr ⟨?_, ?_⟩
  · intro work pool standing present
    cases present
    exact List.not_mem_nil
  iterate 2 refine (TransitionSystem.along_cons rfl).mpr ⟨trivial, ?_⟩
  -- in front of the second critical section of drain_pending nothing is asked
  iterate 3
    refine (TransitionSystem.along_cons rfl).mpr ⟨?_, ?_⟩
    · intro pool pending present standing
      cases present
      cases standing
  refine (TransitionSystem.along_cons rfl).mpr ⟨?_, ?_⟩
  · intro pool pending present standing
    cases present
    rfl
  exact (TransitionSystem.along_cons rfl).mpr ⟨trivial, trivial⟩

/-- Shutdown finds the worker in its handler, returns the unit as a failure, and then the
handler succeeds. -/
def racingRun : List ConsumerEvent :=
  [.loopTest, Consumer.unitFrame, .push] ++ List.replicate 6 (.pool (.worker 0)) ++
    [.stop, .loopTest] ++ List.replicate 3 (.pool .owner) ++ [.fail ""] ++
    [.pool (.handlerReturns 0 (.returned (WorkUnitMessage.named "u-1").success))] ++
    List.replicate 6 (.pool (.worker 0))

theorem failure_and_success :
    ¬ ∀ (config : ConsumerConfig) (events : List ConsumerEvent),
      (consumerSystem config).Along (fun _ _ after => ReportedOnce after) .start events := by
  intro claimed
  obtain ⟨final, pool, replay, present, twice⟩ : ∃ final pool,
      (consumerSystem Consumer.smallConsumer).run .start racingRun = some final ∧
        final.pool = some pool ∧ finalResults pool final.failed "u-1" = 2 :=
    ⟨_, _, (Consumer.run_first _).trans rfl, rfl, rfl⟩
  have once := TransitionSystem.along_last (List.cons_ne_nil _ _)
    (claimed Consumer.smallConsumer racingRun) replay pool present "u-1"
  omega

end PnC.Guarantees.ConsumerShutdown
