import Mathlib.Algebra.Order.BigOperators.Group.List
import Mathlib.Algebra.Order.Group.Nat
import Mathlib.Data.Nat.Cast.Basic
import PnC.Source.PoolSteps

/-!
# The counters of the thread pool

Every update of a counter is a step of its own. idle_count_ and active_count_ follow the
workers between two updates; total_completed_ and total_failed_ are raised one step after the
stage of the result callback.
-/
namespace PnC.Guarantees.PoolCounters

open PnC.Library PnC.Source

variable {κ : Type} {config : PoolConfig κ}

/-- Between `idle_count_--` and `idle_count_++`. -/
def notIdle : WorkerPhase κ → Nat
  | .busy _ | .registered _ | .handling _ | .handled .. | .erased .. | .inactive .. => 1
  | .reporting .. | .reported _ | .tallied => 1
  | _ => 0

def isIdle (phase : WorkerPhase κ) : Nat := 1 - notIdle phase

/-- Between `active_count_++` and `active_count_--`. -/
def counted : WorkerPhase κ → Nat
  | .active _ | .busy _ | .registered _ | .handling _ | .handled .. | .erased .. => 1
  | _ => 0

/-- Behind the result callback, in front of the update that counts its unit. -/
def uncounted : WorkerPhase κ → Nat
  | .reported _ => 1
  | _ => 0

/-- From the pop of a unit to its last counter update. -/
def hasUnit : WorkerPhase κ → Nat
  | .taken _ | .active _ => 1
  | phase => notIdle phase

/-- The next step of the worker ends the stage of the result callback. -/
def endsCallback (config : PoolConfig κ) : WorkerPhase κ → Nat
  | .inactive .. => if config.resultCallback.isNone then 1 else 0
  | .reporting _ _ [] => 1
  | _ => 0

/-- A step after which one more unit is through with the result callback. -/
def callbackEnds (config : PoolConfig κ) (pool : ThreadPool κ) : PoolEvent → Nat
  | .worker i => (pool.workers[i]?.map (endsCallback config)).getD 0
  | _ => 0

/-- The units whose result callback stage is over when the events have happened. -/
def callbacksOver (config : PoolConfig κ) (size : UInt64) (captured : κ)
    (events : List PoolEvent) : Nat :=
  (poolSystem config).tally (callbackEnds config) (.start size captured) events

/-- idle_count_ and active_count_ say what the workers do. -/
structure Counts (size : UInt64) (pool : ThreadPool κ) : Prop where
  workers : pool.workers.length = size.toNat
  idle : pool.shared.idleCount.toNat = pool.total isIdle
  active : pool.shared.activeCount.toNat = pool.total counted

theorem isIdle_le_one (phase : WorkerPhase κ) : isIdle phase ≤ 1 := by
  unfold isIdle
  omega

theorem counted_le_one (phase : WorkerPhase κ) : counted phase ≤ 1 := by
  cases phase <;> simp [counted]

theorem sum_le_length (weight : WorkerPhase κ → Nat) (small : ∀ phase, weight phase ≤ 1)
    (workers : List (WorkerPhase κ)) : (workers.map weight).sum ≤ workers.length := by
  induction workers with
  | nil => simp
  | cons phase rest ih =>
    have bound := small phase
    simp only [List.map_cons, List.sum_cons, List.length_cons]
    omega

/-- While a worker is not counted, the count is below the number of workers. -/
theorem total_succ_le (weight : WorkerPhase κ → Nat) (small : ∀ phase, weight phase ≤ 1)
    {pool : ThreadPool κ} {left right : List (WorkerPhase κ)} {phase : WorkerPhase κ}
    (before : pool.workers = left ++ phase :: right) :
    pool.total weight + 1 ≤ pool.workers.length + weight phase := by
  have others := sum_le_length weight small left
  have rest := sum_le_length weight small right
  simp only [ThreadPool.total, before, List.map_append, List.map_cons, List.sum_append,
    List.sum_cons, List.length_append, List.length_cons]
  omega

theorem isIdle_add_notIdle (phase : WorkerPhase κ) : isIdle phase + notIdle phase = 1 := by
  cases phase <;> rfl

theorem toNat_lower {count : UInt64} (positive : 1 ≤ count.toNat) :
    (count - 1).toNat + 1 = count.toNat := by
  have one : (1 : UInt64) ≤ count := UInt64.le_iff_toNat_le.mpr positive
  rw [UInt64.toNat_sub_of_le _ _ one]
  exact Nat.sub_add_cancel positive

theorem toNat_raise {count : UInt64} (below : count.toNat + 1 < 2 ^ 64) :
    (count + 1).toNat = count.toNat + 1 := by
  rw [UInt64.toNat_add]
  exact Nat.mod_eq_of_lt below

/-- idle_count_ moves with the worker, and does not wrap while the worker is counted in it. -/
theorem idle_step {i : Nat} {s t : PoolShared κ} {phase next : WorkerPhase κ}
    (step : WorkerStep config i s phase next t) (room : isIdle phase ≤ s.idleCount.toNat)
    (below : isIdle phase = 0 → s.idleCount.toNat + 1 < 2 ^ 64) :
    t.idleCount.toNat + isIdle phase = s.idleCount.toNat + isIdle next := by
  cases step with
  | countBusy work => exact toNat_lower room
  | countIdle => exact toNat_raise (below rfl)
  | _ => rfl

theorem active_step {i : Nat} {s t : PoolShared κ} {phase next : WorkerPhase κ}
    (step : WorkerStep config i s phase next t) (room : counted phase ≤ s.activeCount.toNat)
    (below : counted phase = 0 → s.activeCount.toNat + 1 < 2 ^ 64) :
    t.activeCount.toNat + counted phase = s.activeCount.toNat + counted next := by
  cases step with
  | countActive work => exact toNat_raise (below rfl)
  | countInactive work result => exact toNat_lower room
  | _ => rfl

theorem counts_start (size : UInt64) (captured : κ) : Counts size (.start size captured) := by
  refine ⟨List.length_replicate, ?_, ?_⟩
  · simp [ThreadPool.start, ThreadPool.total, isIdle, notIdle]
  · simp [ThreadPool.start, ThreadPool.total, counted]

theorem counts_step {size : UInt64} {pool after : ThreadPool κ} (step : PoolStep config pool after)
    (counts : Counts size pool) : Counts size after := by
  cases step with
  | submit work queue standing pushed => exact ⟨counts.workers, counts.idle, counts.active⟩
  | requestStop => exact ⟨counts.workers, counts.idle, counts.active⟩
  | worker left right phase next shared before step =>
    obtain ⟨workers, idle, active⟩ := counts
    have bound := size.toNat_lt
    have idleWithin := ThreadPool.weight_le_total isIdle before
    have idleBelow := total_succ_le isIdle isIdle_le_one before
    have activeWithin := ThreadPool.weight_le_total counted before
    have activeBelow := total_succ_le counted counted_le_one before
    have idleMoved := ThreadPool.total_move isIdle before
      { pool with shared := shared, workers := left ++ next :: right } rfl
    have activeMoved := ThreadPool.total_move counted before
      { pool with shared := shared, workers := left ++ next :: right } rfl
    have idled := idle_step step (by omega) (by omega)
    have activated := active_step step (by omega) (by omega)
    refine ⟨?_, ?_, ?_⟩
    · rw [← workers, before]
      simp
    · dsimp only at idleMoved ⊢
      omega
    · dsimp only at activeMoved ⊢
      omega
  | owner next shared drawn step =>
    cases step <;> exact ⟨counts.workers, counts.idle, counts.active⟩

theorem kept (count : UInt64) : count = count + UInt64.ofNat 0 := (UInt64.add_zero count).symm

/-- A unit that is through with its callback is counted in the next step of its worker. -/
theorem totals_move {i : Nat} {s t : PoolShared κ} {phase next : WorkerPhase κ}
    (step : WorkerStep config i s phase next t) :
    ∃ completed failed : Nat, t.totalCompleted = s.totalCompleted + UInt64.ofNat completed ∧
      t.totalFailed = s.totalFailed + UInt64.ofNat failed ∧
      completed + failed + uncounted next = uncounted phase + endsCallback config phase := by
  cases step with
  | countCompleted result success => exact ⟨1, 0, rfl, kept _, rfl⟩
  | countFailed result failure => exact ⟨0, 1, kept _, rfl, rfl⟩
  | noResultCallback work result free missing =>
    exact ⟨0, 0, kept _, kept _, by simp [uncounted, endsCallback, missing]⟩
  | callResult work result callback free present =>
    exact ⟨0, 0, kept _, kept _, by simp [uncounted, endsCallback, present]⟩
  | _ => exact ⟨0, 0, kept _, kept _, rfl⟩

theorem totals_step {pool after : ThreadPool κ} {event : PoolEvent}
    (taken : (poolSystem config).step pool event = some after) :
    ∃ completed failed : Nat,
      after.shared.totalCompleted = pool.shared.totalCompleted + UInt64.ofNat completed ∧
      after.shared.totalFailed = pool.shared.totalFailed + UInt64.ofNat failed ∧
      completed + failed + after.total uncounted =
        pool.total uncounted + callbackEnds config pool event := by
  cases event with
  | submit work =>
    simp only [poolSystem] at taken
    split at taken
    next =>
      obtain ⟨queue, -, rfl⟩ := Option.map_eq_some_iff.mp taken
      exact ⟨0, 0, kept _, kept _, Nat.zero_add _⟩
    next => cases taken
  | requestStop =>
    cases taken
    exact ⟨0, 0, kept _, kept _, Nat.zero_add _⟩
  | worker i =>
    obtain ⟨left, phase, right, next, shared, rfl, before, move, rfl⟩ :=
      ThreadPool.moveWorker_some taken
    obtain ⟨completed, failed, succeeded, refused, same⟩ :=
      totals_move (ThreadPool.worker_steps move)
    have moved := ThreadPool.total_move uncounted before
      { pool with shared := shared, workers := left ++ next :: right } rfl
    have ends : callbackEnds config pool (.worker left.length) = endsCallback config phase := by
      simp [callbackEnds, before]
    refine ⟨completed, failed, succeeded, refused, ?_⟩
    rw [ends]
    omega
  | handlerReturns i outcome =>
    obtain ⟨left, phase, right, next, shared, rfl, before, move, rfl⟩ :=
      ThreadPool.moveWorker_some taken
    have moved := ThreadPool.total_move uncounted before
      { pool with shared := shared, workers := left ++ next :: right } rfl
    cases phase with
    | handling work =>
      cases move
      exact ⟨0, 0, kept _, kept _, by
        simp only [callbackEnds, uncounted, Nat.zero_add, Nat.add_zero] at moved ⊢
        exact moved⟩
    | _ => cases move
  | owner =>
    obtain ⟨next, shared, drawn, step, rfl⟩ := ThreadPool.owner_steps taken
    cases step <;> exact ⟨0, 0, kept _, kept _, Nat.zero_add _⟩

theorem totals_run {pool final : ThreadPool κ} {events : List PoolEvent}
    (replay : (poolSystem config).run pool events = some final) :
    ∃ completed failed : Nat,
      final.shared.totalCompleted = pool.shared.totalCompleted + UInt64.ofNat completed ∧
      final.shared.totalFailed = pool.shared.totalFailed + UInt64.ofNat failed ∧
      completed + failed + final.total uncounted =
        pool.total uncounted + (poolSystem config).tally (callbackEnds config) pool events := by
  induction events generalizing pool with
  | nil =>
    cases replay
    exact ⟨0, 0, kept _, kept _, Nat.zero_add _⟩
  | cons event rest ih =>
    obtain ⟨after, taken, later⟩ := TransitionSystem.run_cons_some replay
    obtain ⟨completed, failed, succeeded, refused, same⟩ := totals_step taken
    obtain ⟨completed', failed', succeeded', refused', same'⟩ := ih later
    refine ⟨completed + completed', failed + failed', ?_, ?_, ?_⟩
    · rw [succeeded', succeeded, UInt64.ofNat_add, UInt64.add_assoc]
    · rw [refused', refused, UInt64.ofNat_add, UInt64.add_assoc]
    · rw [TransitionSystem.tally, taken]
      dsimp only
      omega

theorem total_eq_zero {weight other : WorkerPhase κ → Nat} {pool : ThreadPool κ}
    (below : ∀ phase, weight phase ≤ other phase) (none : pool.total other = 0) :
    pool.total weight = 0 := by
  have least : pool.total weight ≤ pool.total other :=
    List.sum_le_sum fun phase _ => below phase
  omega

/-- What the counters say in a state that the events have led to. -/
structure Meaning (config : PoolConfig κ) (size : UInt64) (captured : κ) (events : List PoolEvent)
    (final : ThreadPool κ) : Prop where
  idle : final.shared.idleCount.toNat + final.total notIdle = size.toNat
  active : final.shared.activeCount.toNat = final.total counted
  idle_le : final.shared.idleCount ≤ size
  active_le : final.shared.activeCount ≤ size
  totals : ∃ completed failed : Nat, final.shared.totalCompleted = UInt64.ofNat completed ∧
    final.shared.totalFailed = UInt64.ofNat failed ∧
    completed + failed + final.total uncounted = callbacksOver config size captured events
  finished : final.total hasUnit = 0 →
    final.shared.idleCount = size ∧ final.shared.activeCount = 0

/-- In every state of a pool of any size: idle_count_ is the size less the workers between
its two updates and active_count_ the number of workers between its own, so both stay within
the size. total_completed_ and total_failed_ together are the units that are through with
the result callback, less those whose worker has not made the update behind it. When no
worker has a unit, all are idle and none is active. -/
theorem counters_mean (config : PoolConfig κ) (size : UInt64) (captured : κ)
    (events : List PoolEvent) (final : ThreadPool κ)
    (replay : (poolSystem config).run (.start size captured) events = some final) :
    Meaning config size captured events final := by
  have counts := TransitionSystem.run_preserves (Counts size)
    (fun _ _ _ counts taken => counts_step (ThreadPool.pool_steps taken) counts)
    (counts_start size captured) replay
  obtain ⟨workers, idle, active⟩ := counts
  have both : final.total isIdle + final.total notIdle = size.toNat := by
    rw [← workers]
    unfold ThreadPool.total
    rw [← List.sum_map_add]
    simp [isIdle_add_notIdle]
  have within := sum_le_length counted counted_le_one final.workers
  obtain ⟨completed, failed, succeeded, refused, same⟩ := totals_run replay
  have fresh : (ThreadPool.start size captured : ThreadPool κ).total uncounted = 0 := by
    simp [ThreadPool.start, ThreadPool.total, uncounted]
  refine ⟨by omega, active, UInt64.le_iff_toNat_le.mpr (by omega), ?_,
    ⟨completed, failed, ?_, ?_, ?_⟩, ?_⟩
  · rw [UInt64.le_iff_toNat_le, active, ← workers]
    exact within
  · rw [succeeded]
    exact UInt64.zero_add _
  · rw [refused]
    exact UInt64.zero_add _
  · rw [fresh, Nat.zero_add] at same
    exact same
  · intro finished
    have none : final.total notIdle = 0 := total_eq_zero (by
      intro phase
      cases phase <;> simp [notIdle, hasUnit]) finished
    have idlers : final.total counted = 0 := total_eq_zero (by
      intro phase
      cases phase <;> simp [counted, hasUnit, notIdle]) finished
    refine ⟨UInt64.toNat_inj.mp (by omega), UInt64.toNat_inj.mp ?_⟩
    rw [active, idlers]
    rfl

def quietPool : PoolConfig Unit := ⟨true, some fun _ => [], none⟩

/-- One worker handles one unit, up to the end of its result callback. -/
def oneCallback : List PoolEvent :=
  [.submit (.named "u-0")] ++ List.replicate 6 (.worker 0) ++
    [.handlerReturns 0 (.returned (WorkUnitMessage.named "u-0").success)] ++
    List.replicate 4 (.worker 0)

theorem counters_mean_one_callback : ∃ final,
    (poolSystem quietPool).run (.start 1 ()) oneCallback = some final ∧
      Meaning quietPool 1 () oneCallback final :=
  ⟨_, rfl, counters_mean quietPool 1 () oneCallback _ rfl⟩

/-- Right behind the callback its unit is not counted yet. -/
theorem counted_after_the_callback :
    ¬ ∀ (config : PoolConfig Unit) (size : UInt64) (events : List PoolEvent)
      (final : ThreadPool Unit), (poolSystem config).run (.start size ()) events = some final →
        final.shared.totalCompleted + final.shared.totalFailed =
          UInt64.ofNat (callbacksOver config size () events) := by
  intro claimed
  have same := claimed quietPool 1 oneCallback _ rfl
  exact absurd same (by decide)

end PnC.Guarantees.PoolCounters
