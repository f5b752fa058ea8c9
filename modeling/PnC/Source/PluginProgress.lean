import PnC.Source.ProducerSteps
import PnC.Source.Resume

/-!
# Plugins across a checkpoint

What makes a plugin resume where it stopped, and what makes the jobs it gives from
there on new ones.
-/
namespace PnC.Source

namespace TestPlugin

variable {σ : Type} {plugin : TestPlugin σ}

/-- Between the states that satisfy `inv`, `le` never goes back, and a job is not given
again from any state that is behind the call that gave it. -/
structure Progress (plugin : TestPlugin σ) (inv : σ → Prop) (le : σ → σ → Prop) : Prop where
  refl : ∀ s, le s s
  trans : ∀ r s t, le r s → le s t → le r t
  after : ∀ s, inv s → le s (plugin.after s)
  fresh : ∀ s next t later job, inv s → plugin.nextUnit s = .unit next job → inv t → le next t →
    plugin.nextUnit t ≠ .unit later job

theorem inv_iterate {inv : σ → Prop} (preserved : ∀ s, inv s → inv (plugin.after s)) {s : σ}
    (start : inv s) (n : Nat) : inv (plugin.after^[n] s) := by
  induction n with
  | zero => exact start
  | succ n ih =>
    rw [Function.iterate_succ_apply']
    exact preserved _ ih

theorem Progress.le_iterate {inv : σ → Prop} {le : σ → σ → Prop}
    (progress : plugin.Progress inv le) (preserved : ∀ s, inv s → inv (plugin.after s)) {s : σ}
    (start : inv s) (n : Nat) : le s (plugin.after^[n] s) := by
  induction n with
  | zero => exact progress.refl s
  | succ n ih =>
    rw [Function.iterate_succ_apply']
    exact progress.trans _ _ _ ih (progress.after _ (inv_iterate preserved start n))

/-- No two calls give the same job. -/
theorem Progress.never_repeats {inv : σ → Prop} {le : σ → σ → Prop}
    (progress : plugin.Progress inv le) (preserved : ∀ s, inv s → inv (plugin.after s)) {s : σ}
    (start : inv s) {m n : Nat} (order : m < n) {job : Json} (first : plugin.Gives s m job) :
    ¬ plugin.Gives s n job := by
  rintro ⟨later, second⟩
  obtain ⟨next, first⟩ := first
  have here := inv_iterate preserved start m
  have next_eq : next = plugin.after (plugin.after^[m] s) := by rw [TestPlugin.after, first]
  have between : plugin.after^[n] s = plugin.after^[n - (m + 1)] next := by
    rw [next_eq, ← Function.iterate_succ_apply' plugin.after, ← Function.iterate_add_apply]
    congr 1
    omega
  have there := inv_iterate preserved start n
  refine progress.fresh _ next _ later job here first there ?_ second
  rw [between]
  exact progress.le_iterate preserved (next_eq ▸ preserved _ here) _

/-- A job is given a second time only by a plugin that always gives one, and 2^64 calls later
at the earliest. -/
def RepeatsLate (plugin : TestPlugin σ) (s : σ) : Prop :=
  ∀ m n job, m < n → plugin.Gives s m job → plugin.Gives s n job →
    m + 2 ^ 64 ≤ n ∧ ∀ k, ∃ job, plugin.Gives s k job

theorem Progress.repeatsLate {inv : σ → Prop} {le : σ → σ → Prop}
    (progress : plugin.Progress inv le) (preserved : ∀ s, inv s → inv (plugin.after s)) {s : σ}
    (start : inv s) : plugin.RepeatsLate s :=
  fun _ _ _ order first second =>
    absurd second (progress.never_repeats preserved start order first)

theorem gives_iterate (s : σ) (m n : Nat) (job : Json) :
    plugin.Gives (plugin.after^[m] s) n job ↔ plugin.Gives s (n + m) job := by
  unfold Gives
  rw [Function.iterate_add_apply]

end TestPlugin

namespace LoadedPlugin

variable {loaded : LoadedPlugin}

/-- The states of `inv` are the ones a producer can be in, and startup restores each of
them from its checkpoint. -/
structure Resumable (loaded : LoadedPlugin) (inv : loaded.State → Prop) : Prop where
  fresh : ∀ s, loaded.startup .null = .ok s → inv s
  after : ∀ s, inv s → inv (loaded.plugin.after s)
  restore : ∀ s, inv s → loaded.startup (loaded.plugin.checkpoint s) = .ok s

/-- What --resume makes of the final checkpoint of a producer. -/
theorem resume_writeFinalCheckpoint (dir : CheckpointDir) (p : Producer loaded.State)
    (now : String) (job : JobSetup) :
    loaded.resume (loaded.writeFinalCheckpoint dir p now) job =
      (loaded.startup (loaded.plugin.checkpoint p.plugin)).map
        (Producer.started job (toInt32 p.tracker.lastCompletedSeq + 1)) := by
  unfold resume writeFinalCheckpoint
  rw [CheckpointDir.load_save]
  rfl

/-- The plugin of a resumed producer is in the state of the checkpoint. -/
theorem Resumable.resumes {inv : loaded.State → Prop} (resumable : loaded.Resumable inv)
    (dir : CheckpointDir) {p : Producer loaded.State} (holds : inv p.plugin) (now : String)
    (job : JobSetup) :
    loaded.resume (loaded.writeFinalCheckpoint dir p now) job =
      .ok (.started job (toInt32 p.tracker.lastCompletedSeq + 1) p.plugin) := by
  rw [resume_writeFinalCheckpoint, resumable.restore _ holds]
  rfl

end LoadedPlugin

/-- Some calls were made. Every entry of the tracker has the job of one of them, and if each
has given a unit, total_generated_ counts them. -/
def Logged {σ : Type} (plugin : TestPlugin σ) (start : σ) (p : Producer σ) : Prop :=
  ∃ calls, p.plugin = plugin.after^[calls] start ∧
    (∀ id e, p.tracker.find id = some e → ∃ n < calls, plugin.Gives start n e.job) ∧
    ((∀ k < calls, ∃ job, plugin.Gives start k job) → p.totalGenerated = calls)

section Logged
variable {σ : Type} {plugin : TestPlugin σ} {start : σ}

theorem logged_step (peer : Option Nat) (p q : Producer σ) (logged : Logged plugin start p)
    (step : ProducerStep plugin peer p q) : Logged plugin start q := by
  obtain ⟨calls, state, entries, counted⟩ := logged
  cases step with
  | @unit state' job timestamp consumerId call =>
    rw [state] at call
    refine ⟨calls + 1, ?_, fun id e found => ?_, fun all => ?_⟩
    · rw [Function.iterate_succ_apply', TestPlugin.after, call]
      rfl
    · rw [find_recordUnit] at found
      split at found
      · cases found
        exact ⟨calls, Nat.lt_succ_self calls, state', call⟩
      · obtain ⟨n, earlier, gives⟩ := entries id e found
        exact ⟨n, Nat.lt_succ_of_lt earlier, gives⟩
    · have before := counted fun k below => all k (Nat.lt_succ_of_lt below)
      simp only [Producer.recordUnit, before, Int.natCast_succ]
  | @refused state' call =>
    refine ⟨calls + 1, ?_, fun id e found => ?_, fun all => ?_⟩
    · rw [Function.iterate_succ_apply', TestPlugin.after, ← state]
      rcases call with call | ⟨what, call⟩ <;> rw [call]
    · obtain ⟨n, earlier, gives⟩ := entries id e found
      exact ⟨n, Nat.lt_succ_of_lt earlier, gives⟩
    · obtain ⟨job, next, given⟩ := all calls (Nat.lt_succ_self calls)
      rw [← state] at given
      rcases call with call | ⟨what, call⟩ <;> cases call.symm.trans given
  | result msg =>
    obtain ⟨-, -, same, -⟩ := frame_handleResult p msg
    refine ⟨calls, same.trans state, fun id e found => ?_, fun all => ?_⟩
    rw [find_handleResult] at found
    split at found
    · obtain ⟨old, present, rfl⟩ := Option.map_eq_some_iff.mp found
      split <;> exact entries _ old present
    · exact entries id e found
    · rw [totalGenerated_handleResult]
      exact counted all
  | reclaim consumerId =>
    refine ⟨calls, state, fun id e found => ?_, counted⟩
    rw [find_reclaimConsumer] at found
    obtain ⟨old, present, rfl⟩ := Option.map_eq_some_iff.mp found
    unfold WorkTracker.reclaim
    split <;> exact entries id old present
  | register | registerUdp =>
    first | rw [Producer.registerConsumer_eq] | rw [Producer.registerConsumerUdp_eq]
    exact ⟨calls, state, entries, counted⟩
  | touch | unregister | stop => exact ⟨calls, state, entries, counted⟩

theorem logged_run {job : JobSetup} {nextSeq : Int} {events : List Event} {w : World σ}
    (reached : (producerSystem plugin).run (World.listening (.started job nextSeq start)) events =
      some w) : Logged plugin start w.producer :=
  producer_invariant (Logged plugin start) logged_step
    ⟨0, rfl, (fun _ _ found => by cases found), fun _ => rfl⟩ reached

end Logged

/-- A producer of this configuration begins in a state of the invariant, however many
times it has been resumed. -/
theorem LoadedPlugin.Resumable.begun {loaded : LoadedPlugin} {inv : loaded.State → Prop}
    (resumable : loaded.Resumable inv) {state : loaded.State} (begun : loaded.Begun state) :
    inv state := by
  induction begun with
  | fresh started => exact resumable.fresh _ started
  | resumed earlier reached again ih =>
    obtain ⟨calls, plugin, -⟩ := logged_run reached
    have holds := TestPlugin.inv_iterate resumable.after ih calls
    rw [← plugin] at holds
    rw [resumable.resumes _ holds] at again
    cases again
    exact holds

end PnC.Source
