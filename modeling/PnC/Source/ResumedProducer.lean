import PnC.Source.CounterProgress
import PnC.Source.PwdResume

/-!
# Producers that were resumed

What is common to the three plugins across a checkpoint, and the numbers and counters
of a producer that begins with an empty tracker at some value of next_seq_.
-/
namespace PnC.Source

open PnC.Library LoadedPlugin

/-- startup restores each of the three plugins from its checkpoint. -/
theorem initPlugin_resumable (config : PluginConfig) :
    ∃ inv, (initPlugin config).Resumable inv := by
  cases config with
  | pwd config => exact ⟨_, PwdState.pwd_resumable config⟩
  | bench config sourceFile => exact ⟨_, BenchState.bench_resumable config sourceFile⟩
  | echo config => exact ⟨_, EchoState.echo_resumable config⟩

section Counting
variable {σ : Type} {plugin : TestPlugin σ}

/-! ## Numbers handed out -/

/-- A unit has been handed out under the number. -/
def Assigned (p : Producer σ) (seq : Int) : Prop :=
  ∃ id, (p.tracker.find id).map WorkUnitEntry.seq = some seq

theorem assigned_congr {p q : Producer σ}
    (same : ∀ id, (q.tracker.find id).map WorkUnitEntry.seq =
      (p.tracker.find id).map WorkUnitEntry.seq) (seq : Int) :
    Assigned q seq ↔ Assigned p seq := by
  unfold Assigned
  simp only [same]

theorem assigned_recordUnit {p : Producer σ} (numbered : Numbered p) (state : σ)
    (timestamp consumerId : String) (job : Json) (seq : Int) :
    Assigned (p.recordUnit state (p.unitMessage timestamp job) consumerId) seq ↔
      seq = p.nextSeq ∨ Assigned p seq := by
  unfold Assigned
  simp only [find_recordUnit]
  constructor
  · rintro ⟨id, given⟩
    split at given
    next => exact Or.inl (Option.some.inj given).symm
    next => exact Or.inr ⟨id, given⟩
  · rintro (rfl | ⟨id, given⟩)
    · refine ⟨p.unitId p.nextSeq, ?_⟩
      rw [if_pos rfl]
      rfl
    · refine ⟨id, ?_⟩
      have old : id ≠ p.unitId p.nextSeq := by
        intro new
        rw [new, numbered.fresh] at given
        cases given
      rw [if_neg old]
      exact given

/-- A result changes no number. -/
theorem assigned_handleResult (p : Producer σ) (result : ResultMessage) (seq : Int) :
    Assigned (p.handleResult result) seq ↔ Assigned p seq := by
  refine assigned_congr (fun id => ?_) seq
  rw [find_handleResult]
  split
  next same =>
    rw [same, Option.map_map]
    congr 1
    split <;> rfl
  next => rfl

theorem assigned_reclaimConsumer (p : Producer σ) (consumerId : String) (seq : Int) :
    Assigned (p.reclaimConsumer consumerId) seq ↔ Assigned p seq := by
  refine assigned_congr (fun id => ?_) seq
  rw [find_reclaimConsumer, Option.map_map]
  congr 1
  funext e
  simp only [Function.comp_apply, WorkTracker.reclaim]
  split <;> rfl

/-! ## The counters -/

/-- The result is the success of a unit that is tracked. -/
def Completes (p : Producer σ) (result : ResultMessage) : Prop :=
  result.status = "success" ∧ (p.tracker.find result.workUnitId).isSome

instance (p : Producer σ) (result : ResultMessage) : Decidable (Completes p result) :=
  inferInstanceAs (Decidable (_ ∧ _))

theorem counters_markCompleted (t : WorkTracker) (id : String) :
    if (t.find id).isSome then
      (t.find id).map WorkUnitEntry.seq = some (t.markCompleted id).lastCompletedSeq ∧
        (t.markCompleted id).completedCount = t.completedCount + 1
    else t.markCompleted id = t := by
  unfold WorkTracker.markCompleted
  cases t.find id <;> simp

/-- What a result does to the counters: one that completes a unit makes its number the
last completed one and counts one up. -/
theorem counters_handleResult (p : Producer σ) (result : ResultMessage) :
    (p.handleResult result).totalGenerated = p.totalGenerated ∧
      if Completes p result then
        Assigned p (p.handleResult result).tracker.lastCompletedSeq ∧
          (p.handleResult result).tracker.completedCount = p.tracker.completedCount + 1
      else
        (p.handleResult result).tracker.lastCompletedSeq = p.tracker.lastCompletedSeq ∧
          (p.handleResult result).tracker.completedCount = p.tracker.completedCount := by
  have tracker : (p.handleResult result).tracker =
      if result.status = "success" then p.tracker.markCompleted result.workUnitId
      else p.tracker.markFailed result.workUnitId := by
    unfold Producer.handleResult
    by_cases success : result.status = "success"
    · simp only [if_pos success]
      cases result.foundPassword <;> rfl
    · simp only [if_neg success]
      cases result.fileError <;> rfl
  refine ⟨totalGenerated_handleResult p result, ?_⟩
  rw [tracker]
  by_cases success : result.status = "success"
  · rw [if_pos success]
    have marked := counters_markCompleted p.tracker result.workUnitId
    by_cases tracked : (p.tracker.find result.workUnitId).isSome
    · rw [if_pos ⟨success, tracked⟩]
      rw [if_pos tracked] at marked
      exact ⟨⟨result.workUnitId, marked.1⟩, marked.2⟩
    · rw [if_neg (fun completes => tracked completes.2)]
      rw [if_neg tracked] at marked
      rw [marked]
      exact ⟨rfl, rfl⟩
  · rw [if_neg success, if_neg (fun completes => success completes.1)]
    unfold WorkTracker.markFailed
    split <;> exact ⟨rfl, rfl⟩

/-- The numbers and counters of a producer that began at `first`. -/
structure Counted (first : Int) (p : Producer σ) : Prop where
  numbered : Numbered p
  assigned : ∀ seq, Assigned p seq ↔ first ≤ seq ∧ seq < p.nextSeq
  begun : first ≤ p.nextSeq
  completed : p.tracker.completedCount = 0 ∧ p.tracker.lastCompletedSeq = -1 ∨
    0 < p.tracker.completedCount ∧ Assigned p p.tracker.lastCompletedSeq

theorem counted_started (job : JobSetup) (first : Int) (state : σ) :
    Counted first (Producer.started job first state) where
  numbered := numbered_started job first state
  assigned seq := by
    refine iff_of_false (fun ⟨id, given⟩ => by cases given) (fun ⟨low, high⟩ => ?_)
    exact absurd (Int.lt_of_le_of_lt low high) (Int.lt_irrefl first)
  begun := Int.le_refl first
  completed := Or.inl ⟨rfl, rfl⟩

theorem counted_step {first : Int} (peer : Option Nat) (p q : Producer σ)
    (counted : Counted first p) (step : ProducerStep plugin peer p q) : Counted first q := by
  have numberedNow := numbered_step peer p q counted.numbered step
  obtain ⟨numbered, assigned, begun, completed⟩ := counted
  cases step with
  | @unit state job timestamp consumerId call =>
    have given := assigned_recordUnit numbered state timestamp consumerId job
    refine ⟨numberedNow, fun seq => ?_, ?_, ?_⟩
    · rw [given, assigned]
      simp only [Producer.recordUnit]
      omega
    · simp only [Producer.recordUnit]
      omega
    · rcases completed with none | ⟨positive, old⟩
      · exact Or.inl none
      · exact Or.inr ⟨positive, (given _).mpr (Or.inr old)⟩
  | result msg =>
    obtain ⟨nextSeq, -, -, -⟩ := frame_handleResult p msg
    refine ⟨numberedNow, fun seq => ?_, ?_, ?_⟩
    · rw [assigned_handleResult, nextSeq]
      exact assigned seq
    · rw [nextSeq]
      exact begun
    · rw [assigned_handleResult]
      have counters := (counters_handleResult p msg).2
      split at counters
      next =>
        refine Or.inr ⟨?_, counters.1⟩
        rcases completed with ⟨none, -⟩ | ⟨positive, -⟩ <;> omega
      next =>
        rw [counters.1, counters.2]
        exact completed
  | reclaim consumerId =>
    refine ⟨numberedNow, fun seq => ?_, begun, ?_⟩
    · rw [assigned_reclaimConsumer]
      exact assigned seq
    · rw [assigned_reclaimConsumer]
      exact completed
  | register | registerUdp =>
    revert numberedNow
    first | rw [Producer.registerConsumer_eq] | rw [Producer.registerConsumerUdp_eq]
    exact fun numberedNow => ⟨numberedNow, assigned, begun, completed⟩
  | refused | touch | unregister | stop => exact ⟨numberedNow, assigned, begun, completed⟩

theorem counted_run {job : JobSetup} {first : Int} {state : σ} {events : List Event} {w : World σ}
    (reached : (producerSystem plugin).run (World.listening (.started job first state)) events =
      some w) : Counted first w.producer :=
  producer_invariant (Counted first) counted_step (counted_started job first state) reached

end Counting

end PnC.Source
