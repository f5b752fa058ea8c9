import PnC.Source.PoolSteps

/-!
# Where the units of a pool are

A submitted unit is in the queue, with a worker, passed to the result callback, or taken
out of the queue by drain_pending: nowhere else, and in one of these places only.
-/
namespace PnC.Source

open PnC.Library

variable {κ : Type} {config : PoolConfig κ}

/-- The units that the threads share: in the queue, or passed on. -/
def PoolShared.units (s : PoolShared κ) : Multiset WorkUnitMessage :=
  ↑s.queue.buffer + ↑(s.passed.map Prod.fst)

/-- A worker hands a unit on from one place to the next. -/
theorem WorkerStep.units {i : Nat} {s t : PoolShared κ} {phase next : WorkerPhase κ}
    (registered : config.resultCallback.isSome = true)
    (step : WorkerStep config i s phase next t) :
    t.units + next.held = s.units + phase.held := by
  cases step with
  | pop work queue popped =>
    obtain ⟨items, -⟩ := BoundedQueue.pop_ok popped
    simp only [PoolShared.units, WorkerPhase.held, items, ← Multiset.cons_coe,
      ← Multiset.singleton_add]
    ac_rfl
  | noResultCallback work result free missing => simp [missing] at registered
  | callResult work result callback free present =>
    simp only [PoolShared.units, WorkerPhase.held, List.map_append, List.map_cons, List.map_nil,
      ← Multiset.coe_add, Multiset.coe_singleton]
    ac_rfl
  | _ => rfl

namespace ThreadPool

/-- What drain_pending has found so far: before its second critical section that is what
came out of the queue; afterwards the queue stays empty. -/
def Drains (pool : ThreadPool κ) : Prop :=
  match pool.owner with
  | .submitting => pool.drawn = [] ∧ pool.shared.queue.shutDown = false
  | .popping pending => pending = pool.drawn
  | .collecting pending => pending = pool.drawn ∧ pool.shared.queue.buffer = []
  | .drained pending | .joining pending =>
    pool.drawn <+: pending ∧ pool.shared.queue.buffer = []
  | .returned pending =>
    pool.drawn <+: pending ∧ pool.shared.queue.buffer = [] ∧
      pool.workers.all WorkerPhase.hasExited = true

/-- Every submitted unit is in one place. -/
structure Accounted (pool : ThreadPool κ) : Prop where
  drains : pool.Drains
  balance : pool.shared.units + pool.total WorkerPhase.held + ↑pool.drawn = ↑pool.submitted

theorem accounted_start (size : UInt64) (captured : κ) : (start size captured).Accounted := by
  refine ⟨⟨rfl, rfl⟩, ?_⟩
  simp [start, total, PoolShared.units, BoundedQueue.new, WorkerPhase.held]

/-- A worker that can move has not exited, and puts nothing into the queue. -/
theorem drains_worker {pool : ThreadPool κ} {left right : List (WorkerPhase κ)}
    {phase next : WorkerPhase κ} {shared : PoolShared κ}
    (before : pool.workers = left ++ phase :: right)
    (step : WorkerStep config left.length pool.shared phase next shared)
    (drains : pool.Drains) :
    Drains { pool with shared := shared, workers := left ++ next :: right } := by
  have stays : pool.shared.queue.buffer = [] → shared.queue.buffer = [] := by
    intro empty
    cases step with
    | pop work queue popped =>
      rw [(BoundedQueue.pop_ok popped).1] at empty
      cases empty
    | _ => exact empty
  have open_ : shared.queue.shutDown = pool.shared.queue.shutDown := by
    cases step with
    | pop work queue popped =>
      obtain ⟨-, same⟩ := BoundedQueue.pop_ok popped
      rw [same]
    | _ => rfl
  have running : pool.workers.all WorkerPhase.hasExited = false := by
    rw [before]
    cases step <;> simp [WorkerPhase.hasExited]
  unfold Drains at drains ⊢
  dsimp only
  split at drains
  next => exact ⟨drains.1, open_.trans drains.2⟩
  next => exact drains
  next => exact ⟨drains.1, stays drains.2⟩
  next => exact ⟨drains.1, stays drains.2⟩
  next => exact ⟨drains.1, stays drains.2⟩
  next =>
    rw [running] at drains
    cases drains.2.2

theorem accounted_owner {pool : ThreadPool κ} {next : OwnerPhase} {shared : PoolShared κ}
    {drawn : List WorkUnitMessage} (step : OwnerStep pool next shared drawn)
    (accounted : pool.Accounted) :
    Accounted { pool with shared := shared, owner := next, drawn := drawn } := by
  obtain ⟨drains, balance⟩ := accounted
  cases step with
  | drain standing =>
    rw [Drains, standing] at drains
    exact ⟨drains.1.symm, balance⟩
  | pop pending work queue standing popped =>
    obtain ⟨items, -⟩ := BoundedQueue.tryPop_some popped
    rw [Drains, standing] at drains
    refine ⟨congrArg (· ++ [work]) drains, ?_⟩
    rw [← balance]
    simp only [PoolShared.units, total, items, ← Multiset.cons_coe, ← Multiset.coe_add,
      Multiset.coe_nil, ← Multiset.singleton_add]
    rw [add_zero]
    ac_rfl
  | queueEmpty pending standing popped =>
    rw [Drains, standing] at drains
    exact ⟨⟨drains, BoundedQueue.tryPop_none popped⟩, balance⟩
  | collect pending standing =>
    rw [Drains, standing] at drains
    obtain ⟨rfl, empty⟩ := drains
    exact ⟨⟨List.prefix_append .., empty⟩, balance⟩
  | shutDown pending standing =>
    rw [Drains, standing] at drains
    exact ⟨drains, balance⟩
  | joined pending standing exited =>
    rw [Drains, standing] at drains
    exact ⟨⟨drains.1, drains.2, exited⟩, balance⟩

theorem accounted_step {pool after : ThreadPool κ}
    (registered : config.resultCallback.isSome = true) (step : PoolStep config pool after)
    (accounted : pool.Accounted) : after.Accounted := by
  cases step with
  | submit work queue standing pushed =>
    obtain ⟨drains, balance⟩ := accounted
    rw [Drains, standing] at drains
    obtain ⟨nothing, accepting⟩ := drains
    have stored := BoundedQueue.push_open accepting pushed
    refine ⟨?_, ?_⟩
    · rw [Drains, standing]
      exact ⟨nothing, by rw [stored]; exact accepting⟩
    · rw [← Multiset.coe_add, ← balance]
      simp only [PoolShared.units, total, stored, ← Multiset.coe_add]
      ac_rfl
  | requestStop => exact ⟨accounted.drains, accounted.balance⟩
  | worker left right phase next shared before step =>
    refine ⟨drains_worker before step accounted.drains, ?_⟩
    rw [← accounted.balance]
    exact congrArg (· + _) (total_kept WorkerPhase.held before rfl (step.units registered))
  | owner next shared drawn step => exact accounted_owner step accounted

/-- Every submitted unit is in one place, in every state of the pool. -/
theorem accounted_run (registered : config.resultCallback.isSome = true) {size : UInt64}
    {captured : κ} {events : List PoolEvent} {final : ThreadPool κ}
    (replay : (poolSystem config).run (start size captured) events = some final) :
    final.Accounted :=
  TransitionSystem.run_preserves Accounted
    (fun _ _ _ accounted taken => accounted_step registered (pool_steps taken) accounted)
    (accounted_start size captured) replay

/-- When shutdown has returned, no unit is left in the queue or with a worker. -/
theorem accounted_returned {pool : ThreadPool κ} {pending : List WorkUnitMessage}
    (accounted : pool.Accounted) (returned : pool.owner = .returned pending) :
    pool.drawn <+: pending ∧
      (pool.shared.passed.map Prod.fst ++ pool.drawn).Perm pool.submitted := by
  obtain ⟨drains, balance⟩ := accounted
  rw [Drains, returned] at drains
  obtain ⟨found, empty, exited⟩ := drains
  refine ⟨found, ?_⟩
  have nothing : pool.total WorkerPhase.held = 0 := by
    refine List.sum_eq_zero fun units member => ?_
    obtain ⟨phase, present, rfl⟩ := List.mem_map.mp member
    have out := List.all_eq_true.mp exited phase present
    cases phase with
    | exited => rfl
    | _ => cases out
  rw [nothing, PoolShared.units, empty, Multiset.coe_nil, zero_add, add_zero,
    Multiset.coe_add] at balance
  exact Multiset.coe_eq_coe.mp balance

end ThreadPool

end PnC.Source
