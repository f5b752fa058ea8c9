import PnC.Source.IssuedUnits
import PnC.Source.PluginProgress

/-!
# Nothing that the plugin gives gets lost

The jobs that have been sent are jobs that next_unit has given: all of them, while every send
of a unit succeeds.
-/
namespace PnC.Source

open PnC.Library

variable {σ : Type} {plugin : TestPlugin σ}

/-- The calls of next_unit that lead from one state to another, and jobs that they gave: all
of these jobs, if none has been lost. -/
structure TestPlugin.Emitted (lossless : Prop) (plugin : TestPlugin σ) (start : σ) (calls : Nat)
    (state : σ) (jobs : List Json) : Prop where
  state : state = plugin.after^[calls] start
  given : lossless → ∀ n < calls, ∀ job, plugin.Gives start n job → job ∈ jobs
  only : ∀ job ∈ jobs, ∃ n < calls, plugin.Gives start n job

namespace TestPlugin

variable {lossless : Prop} {start middle state : σ} {jobs more : List Json} {m n : Nat}

theorem Emitted.none (state : σ) : plugin.Emitted lossless state 0 state [] :=
  ⟨rfl, fun _ n below => absurd below (Nat.not_lt_zero n), nofun⟩

/-- A call that gives nothing. -/
theorem Emitted.refused (call : plugin.nextUnit start = .exhausted state ∨
    ∃ what, plugin.nextUnit start = .threw state what) :
    plugin.Emitted lossless start 1 state [] := by
  refine ⟨?_, ?_, nofun⟩
  · show state = plugin.after start
    unfold after
    obtain exhausted | ⟨what, threw⟩ := call
    · rw [exhausted]
    · rw [threw]
  · intro _ n below job gives
    obtain ⟨next, unit⟩ := gives
    rw [Nat.lt_one_iff.mp below] at unit
    replace unit : plugin.nextUnit start = .unit next job := unit
    obtain exhausted | ⟨what, threw⟩ := call
    · rw [exhausted] at unit
      cases unit
    · rw [threw] at unit
      cases unit

theorem Emitted.unit {job : Json} (call : plugin.nextUnit start = .unit state job) :
    plugin.Emitted lossless start 1 state [job] := by
  refine ⟨?_, ?_, ?_⟩
  · show state = plugin.after start
    rw [after, call]
  · intro _ n below other gives
    obtain ⟨next, unit⟩ := gives
    rw [Nat.lt_one_iff.mp below] at unit
    cases call.symm.trans (show plugin.nextUnit start = .unit next other from unit)
    exact List.mem_cons_self
  · intro other member
    cases List.mem_singleton.mp member
    exact ⟨0, Nat.one_pos, state, call⟩

/-- The unit of a send that failed. -/
theorem Emitted.lost {job : Json} (call : plugin.nextUnit start = .unit state job)
    (lossy : ¬ lossless) : plugin.Emitted lossless start 1 state [] := by
  have kept : plugin.Emitted lossless start 1 state [job] := .unit call
  exact ⟨kept.state, fun none_ => absurd none_ lossy, nofun⟩

theorem Emitted.append (first : plugin.Emitted lossless start m middle jobs)
    (later : plugin.Emitted lossless middle n state more) :
    plugin.Emitted lossless start (m + n) state (jobs ++ more) := by
  have shifted (k : Nat) (job : Json) :
      plugin.Gives middle k job ↔ plugin.Gives start (k + m) job := by
    rw [first.state]
    exact gives_iterate start m k job
  refine ⟨?_, ?_, ?_⟩
  · rw [later.state, first.state, ← Function.iterate_add_apply, Nat.add_comm]
  · intro none_ k below job gives
    by_cases early : k < m
    · exact List.mem_append_left _ (first.given none_ k early job gives)
    · refine List.mem_append_right _ (later.given none_ (k - m) (by omega) job ?_)
      rw [shifted, Nat.sub_add_cancel (by omega)]
      exact gives
  · intro job member
    rcases List.mem_append.mp member with before | behind
    · obtain ⟨k, below, gives⟩ := first.only job before
      exact ⟨k, by omega, gives⟩
    · obtain ⟨k, below, gives⟩ := later.only job behind
      exact ⟨k + m, by omega, (shifted k job).mp gives⟩

end TestPlugin

/-- What one dispatch loop sends is what the plugin gives it. -/
theorem emitted_dispatchLoop (plugin : TestPlugin σ) (env : DispatchEnv) (consumerId : String)
    {lossless : Prop} (succeed : lossless → ∀ i, env.sendOk i = true) (remaining i : Nat)
    (p : Producer σ) :
    ∃ calls, plugin.Emitted lossless p.plugin calls
      (p.dispatchLoop plugin env consumerId remaining i).producer.plugin
      ((p.dispatchLoop plugin env consumerId remaining i).sent.map (·.job)) := by
  induction remaining generalizing i p with
  | zero => exact ⟨0, .none _⟩
  | succ remaining ih =>
    unfold Producer.dispatchLoop
    split
    next call => exact ⟨1, .refused (.inl call)⟩
    next what call => exact ⟨1, .refused (.inr ⟨_, call⟩)⟩
    next => exact ⟨0, .none _⟩
    next state job call =>
      dsimp only
      split
      next =>
        obtain ⟨calls, rest⟩ := ih (i + 1)
          (p.recordUnit state (p.unitMessage (env.timestamp i) job) consumerId)
        exact ⟨1 + calls, (TestPlugin.Emitted.unit call).append rest⟩
      next fails => exact ⟨1, .lost call fun none_ => fails (succeed none_ i)⟩

/-- An entry that one dispatch loop makes is that of a unit it sends. -/
theorem tracked_dispatchLoop (plugin : TestPlugin σ) (env : DispatchEnv) (consumerId : String)
    (succeed : ∀ i, env.sendOk i = true) (remaining i : Nat) (p : Producer σ) {id : String}
    (known : ((p.dispatchLoop plugin env consumerId remaining i).producer.tracker.find id).isSome =
      true) :
    (p.tracker.find id).isSome = true ∨
      ∃ msg ∈ (p.dispatchLoop plugin env consumerId remaining i).sent, msg.workUnitId = id := by
  induction remaining generalizing i p with
  | zero => exact .inl known
  | succ remaining ih =>
    unfold Producer.dispatchLoop at known ⊢
    split
    next call =>
      rw [call] at known
      exact .inl known
    next call =>
      rw [call] at known
      exact .inl known
    next call =>
      rw [call] at known
      exact .inl known
    next state job call =>
      simp only [call, succeed i, if_true] at known ⊢
      obtain before | ⟨msg, sent, same⟩ := ih (i + 1) _ known
      · rw [find_recordUnit] at before
        split at before
        next own => exact .inr ⟨_, List.mem_cons_self, own.symm⟩
        next => exact .inl before
      · exact .inr ⟨msg, List.mem_cons_of_mem _ sent, same⟩

/-- No send of a unit fails in the step. -/
def SendsSucceed (event : Event) : Prop :=
  ∀ peer sendOk, World.served event = some (peer, sendOk) → ∀ i, sendOk i = true

/-- What has been sent since the plugin was in the state is what the plugin has given. -/
def World.Complete (lossless : Prop) (plugin : TestPlugin σ) (start : σ) (w : World σ) : Prop :=
  ∃ calls, plugin.Emitted lossless start calls w.producer.plugin (w.units.map (·.2.job))

theorem complete_step {lossless : Prop} {start : σ} {w after : World σ} {event : Event}
    (complete : w.Complete lossless plugin start) (succeed : lossless → SendsSucceed event)
    (taken : (producerSystem plugin).step w event = some after) :
    after.Complete lossless plugin start := by
  obtain ⟨calls, emitted⟩ := complete
  cases World.sends_step taken with
  | nothing same state =>
    refine ⟨calls, ?_⟩
    rw [same, state]
    exact emitted
  | dispatch peer env consumerId remaining p seq name state tracker serves producer units =>
    obtain ⟨more, later⟩ := emitted_dispatchLoop plugin env consumerId
      (fun none_ => succeed none_ _ _ serves) remaining 0 p
    rw [state] at later
    refine ⟨calls + more, ?_⟩
    rw [units, producer, List.map_append, List.map_map]
    exact emitted.append later

/-- Every entry is one that the producer had before its first connection, when it was `p`, or
that of a unit that was sent. -/
def World.Tracked (p : Producer σ) (w : World σ) : Prop :=
  ∀ id, (w.producer.tracker.find id).isSome = true →
    (p.tracker.find id).isSome = true ∨ ∃ unit ∈ w.units, unit.2.workUnitId = id

theorem tracked_step {p : Producer σ} {w after : World σ} {event : Event} (tracked : w.Tracked p)
    (succeed : SendsSucceed event)
    (taken : (producerSystem plugin).step w event = some after) : after.Tracked p := by
  intro id known
  cases World.sends_step taken with
  | nothing same state entries =>
    rw [entries] at known
    rw [same]
    exact tracked id known
  | dispatch peer env consumerId remaining q seq name state tracker serves producer units =>
    rw [producer] at known
    rw [units]
    obtain before | ⟨msg, sent, same⟩ := tracked_dispatchLoop plugin env consumerId
      (succeed _ _ serves) remaining 0 q known
    · rw [tracker] at before
      refine (tracked id before).imp_right ?_
      intro ⟨unit, member, same⟩
      exact ⟨unit, List.mem_append_left _ member, same⟩
    · exact .inr ⟨_, List.mem_append_right _ (List.mem_map_of_mem sent), same⟩

theorem complete_listening {lossless : Prop} (p : Producer σ) :
    (World.listening p).Complete lossless plugin p.plugin :=
  ⟨0, .none _⟩

end PnC.Source
