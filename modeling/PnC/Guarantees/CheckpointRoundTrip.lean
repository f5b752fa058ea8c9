import PnC.Source.Resume

/-!
# Checkpoint states through from_json

The six counters of CheckpointState are int64_t and are read with int literals as
defaults, so each comes back reduced to int. The texts, the list of consumers and the
plugin state come back as they are, and next_seq_ is computed from what comes back.
-/
namespace PnC.Guarantees.CheckpointRoundTrip

open PnC.Source

/-- The numbers are values of their C++ types. -/
structure Typed (s : CheckpointState) : Prop where
  permutationSeed : FitsInt64 s.permutationSeed
  totalJobs : FitsInt64 s.totalJobs
  lastCompletedSeq : FitsInt64 s.lastCompletedSeq
  completedCount : FitsInt64 s.completedCount
  pendingCount : FitsInt64 s.pendingCount
  failedCount : FitsInt64 s.failedCount
  pendingUnits : ∀ c ∈ s.consumersConnected, FitsInt32 c.pendingUnits

/-- The state comes back, and a producer that is resumed from its file goes on with
the number after the saved last_completed_seq. -/
def RoundTrips (s : CheckpointState) : Prop :=
  CheckpointState.fromJson s.toJson = .ok s ∧
    ∀ (loaded : LoadedPlugin) (dir : CheckpointDir) (job : JobSetup) (q : Producer loaded.State),
      loaded.resume (dir.save s) job = .ok q → q.nextSeq = s.lastCompletedSeq + 1

/-- The six int64_t counters are in the range of int. -/
structure CountersFit (s : CheckpointState) : Prop where
  permutationSeed : FitsInt32 s.permutationSeed
  totalJobs : FitsInt32 s.totalJobs
  lastCompletedSeq : FitsInt32 s.lastCompletedSeq
  completedCount : FitsInt32 s.completedCount
  pendingCount : FitsInt32 s.pendingCount
  failedCount : FitsInt32 s.failedCount

theorem CountersFit.fits {s : CheckpointState} (counters : CountersFit s) (typed : Typed s) :
    s.Fits :=
  ⟨counters.permutationSeed, counters.totalJobs, counters.lastCompletedSeq,
    counters.completedCount, counters.pendingCount, counters.failedCount, typed.pendingUnits⟩

/-- Only a state whose counters fit is its own reduction. -/
theorem countersFit_of_reduced {s : CheckpointState} (same : s.reduced = s) : CountersFit s := by
  constructor
  case permutationSeed =>
    exact (toInt32_eq_self_iff _).mp (congrArg CheckpointState.permutationSeed same)
  case totalJobs => exact (toInt32_eq_self_iff _).mp (congrArg CheckpointState.totalJobs same)
  case lastCompletedSeq =>
    exact (toInt32_eq_self_iff _).mp (congrArg CheckpointState.lastCompletedSeq same)
  case completedCount =>
    exact (toInt32_eq_self_iff _).mp (congrArg CheckpointState.completedCount same)
  case pendingCount => exact (toInt32_eq_self_iff _).mp (congrArg CheckpointState.pendingCount same)
  case failedCount => exact (toInt32_eq_self_iff _).mp (congrArg CheckpointState.failedCount same)

/-- load_checkpoint sets next_seq_ from the number that it reads. -/
theorem nextSeq_resume {loaded : LoadedPlugin} {dir : CheckpointDir} {s : CheckpointState}
    {job : JobSetup} {q : Producer loaded.State}
    (resumed : loaded.resume (dir.save s) job = .ok q) :
    q.nextSeq = toInt32 s.lastCompletedSeq + 1 := by
  rw [LoadedPlugin.started_of_resume (CheckpointDir.load_save dir s) resumed]
  rfl

/-- A checkpoint state comes back whole, and next_seq_ with it, exactly when each of
its counters is in the range of int. -/
theorem checkpoint_round_trips_iff (s : CheckpointState) (typed : Typed s) :
    RoundTrips s ↔ CountersFit s := by
  unfold RoundTrips
  rw [CheckpointState.fromJson_toJson]
  constructor
  · rintro ⟨back, -⟩
    exact countersFit_of_reduced (Except.ok.inj back)
  · intro counters
    have back := CheckpointState.reduced_of_fits (counters.fits typed)
    refine ⟨congrArg Except.ok back, fun loaded dir job q resumed => ?_⟩
    rw [nextSeq_resume resumed, toInt32_of_fits counters.lastCompletedSeq]

/-- A run with one consumer, stopped after its unit `seq` has come back. -/
def stoppedAt (seq : Int) : CheckpointState where
  producerId := "prod-1"
  sourceFile := ""
  permutation := "sequential"
  permutationSeed := 0
  totalJobs := seq + 1
  lastCompletedSeq := seq
  lastCompletedWorkUnitId := ""
  completedCount := seq + 1
  pendingCount := 0
  failedCount := 0
  checkpointTimestamp := ""
  consumersConnected := [⟨"cons-1", 0⟩]
  pluginState := some (.object [("seq", .numberInteger 0)])

theorem typed_stoppedAt {seq : Int} (low : -1 ≤ seq) (high : seq < 2 ^ 62) :
    Typed (stoppedAt seq) := by
  constructor
  case pendingUnits =>
    intro c member
    rw [List.mem_singleton.mp member]
    decide
  all_goals
    simp only [stoppedAt, FitsInt64]
    omega

theorem checkpoint_round_trips_iff_ten_units :
    RoundTrips (stoppedAt 9) ↔ CountersFit (stoppedAt 9) :=
  checkpoint_round_trips_iff (stoppedAt 9) (typed_stoppedAt (by decide) (by decide))

/-- After 2^31 + 1 units the saved last_completed_seq comes back negative. -/
theorem large_counters_are_reduced : ¬ ∀ s, Typed s → RoundTrips s := by
  intro claimed
  have back := (claimed (stoppedAt 2147483648) (typed_stoppedAt (by decide) (by decide))).1
  rw [CheckpointState.fromJson_toJson] at back
  have counters := countersFit_of_reduced (Except.ok.inj back)
  exact absurd counters.lastCompletedSeq (by decide)

end PnC.Guarantees.CheckpointRoundTrip
