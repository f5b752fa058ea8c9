import PnC.Source.PoolAccounting

/-!
# No submitted unit is dropped

Between the queue and the result callback a unit is with one worker, which passes it on
whatever its handler does. drain_pending takes the rest out of the queue; a worker that
the stop signal ends early has no unit.
-/
namespace PnC.Guarantees.PoolDrain

open PnC.Library PnC.Source

variable {κ : Type}

/-- When shutdown returns, the submitted units are, each once, the ones that went to the
result callback and the ones that drain_pending took out of the queue. -/
theorem submitted_passed_or_drained (config : PoolConfig κ)
    (registered : config.resultCallback.isSome = true) (hardwareConcurrency requested : UInt64)
    (captured : κ) (events : List PoolEvent) (final : ThreadPool κ)
    (pending : List WorkUnitMessage)
    (replay : (poolSystem config).run
      (.start (ThreadPool.numThreads hardwareConcurrency requested) captured) events = some final)
    (returned : final.owner = .returned pending) :
    final.drawn <+: pending ∧
    (final.shared.passed.map Prod.fst ++ final.drawn).Perm final.submitted ∧
    ∀ work ∈ final.submitted,
      work ∈ pending ∨ ∃ result, (work, result) ∈ final.shared.passed := by
  have accounted := ThreadPool.accounted_run registered replay
  obtain ⟨found, same⟩ := ThreadPool.accounted_returned accounted returned
  refine ⟨found, same, fun work member => ?_⟩
  rcases List.mem_append.mp (same.mem_iff.mpr member) with passed | drained
  · obtain ⟨⟨_, result⟩, present, rfl⟩ := List.mem_map.mp passed
    exact .inr ⟨result, present⟩
  · exact .inl (found.subset drained)

/-- A callback that notes the ids. -/
def noting : PoolConfig (List String) where
  hasHandler := true
  resultCallback := some fun result => [(· ++ [result.workUnitId])]
  idleCallback := none

/-- The only worker is in its handler when the pool is drained; its handler throws. -/
def drainedRun : List PoolEvent :=
  [.submit (.named "u-0"), .submit (.named "u-1")] ++ List.replicate 6 (.worker 0) ++
    List.replicate 3 .owner ++ [.requestStop, .handlerReturns 0 (.threw "broken pipe")] ++
    List.replicate 10 (.worker 0) ++ List.replicate 3 .owner

theorem drainedRun_accounts : ∃ final pending,
    (poolSystem noting).run (.start (ThreadPool.numThreads 8 1) []) drainedRun = some final ∧
      final.owner = .returned pending ∧ pending = [.named "u-1"] ∧
      final.drawn <+: pending ∧
      (final.shared.passed.map Prod.fst ++ final.drawn).Perm final.submitted ∧
      ∀ work ∈ final.submitted,
        work ∈ pending ∨ ∃ result, (work, result) ∈ final.shared.passed :=
  ⟨_, _, rfl, rfl, rfl,
    submitted_passed_or_drained noting rfl 8 1 [] drainedRun _ _ rfl rfl⟩

end PnC.Guarantees.PoolDrain
