import PnC.Source.CounterProgress
import PnC.Source.PwdResume

/-!
# Outstanding work across a checkpoint

The final checkpoint holds the position of the plugin and no entry of the tracker.
The resumed producer goes on from that position, so a unit that was given before the
checkpoint is not given again while the counters of both producers are in range.
-/
namespace PnC.Guarantees.CheckpointResume

open PnC.Library PnC.Source

/-- The job is among those sent while some work requests are served, as many as the
counters allow. -/
def HandsOut {σ : Type} (plugin : TestPlugin σ) (q : Producer σ) (job : Json) : Prop :=
  ∃ timestamp requests, (q.afterServing plugin timestamp requests).CountersFit ∧
    ∃ msg ∈ q.serve plugin timestamp requests, msg.job = job

def HasOutstanding (t : WorkTracker) : Prop :=
  ∃ id e, t.find id = some e ∧ WorkTracker.isOutstanding e = true

/-- The producer that --resume makes of the final checkpoint hands out the job of
every entry that was Pending or Sent. -/
def KeepsOutstanding (loaded : LoadedPlugin) (p : Producer loaded.State) (dir : CheckpointDir)
    (now : String) (job : JobSetup) : Prop :=
  ∃ q, loaded.resume (loaded.writeFinalCheckpoint dir p now) job = .ok q ∧
    ∀ id e, p.tracker.find id = some e → WorkTracker.isOutstanding e = true →
      HandsOut loaded.plugin q e.job

/-! ## What a producer hands out -/

section HandsOut
variable {σ : Type} {plugin : TestPlugin σ} {p q r : Producer σ} {sent more : List WorkUnitMessage}
  {m n : Nat}

/-- Some calls of the plugin, and what is sent of the units they give. When each of them
gives one, total_generated_ counts them. -/
structure Calls (plugin : TestPlugin σ) (p q : Producer σ) (sent : List WorkUnitMessage)
    (calls : Nat) : Prop where
  position : q.plugin = plugin.after^[calls] p.plugin
  gives : ∀ msg ∈ sent, ∃ n < calls, plugin.Gives p.plugin n msg.job
  counted : (∀ k < calls, ∃ job, plugin.Gives p.plugin k job) →
    q.totalGenerated = p.totalGenerated + calls

theorem Calls.none (p : Producer σ) : Calls plugin p p [] 0 :=
  ⟨rfl, nofun, fun _ => (Int.add_zero _).symm⟩

theorem Calls.append (first : Calls plugin p q sent m) (second : Calls plugin q r more n) :
    Calls plugin p r (sent ++ more) (m + n) := by
  have behind (k : Nat) (job : Json) :
      plugin.Gives q.plugin k job ↔ plugin.Gives p.plugin (k + m) job := by
    rw [first.position]
    exact TestPlugin.gives_iterate ..
  refine ⟨?_, fun msg member => ?_, fun all => ?_⟩
  · rw [second.position, first.position, ← Function.iterate_add_apply, Nat.add_comm]
  · rcases List.mem_append.mp member with early | late
    · obtain ⟨k, below, given⟩ := first.gives msg early
      exact ⟨k, by omega, given⟩
    · obtain ⟨k, below, given⟩ := second.gives msg late
      exact ⟨k + m, by omega, (behind k msg.job).mp given⟩
  · have before := first.counted fun k below => all k (by omega)
    have after := second.counted fun k below => by
      obtain ⟨job, given⟩ := all (k + m) (by omega)
      exact ⟨job, (behind k job).mpr given⟩
    rw [after, before, Int.natCast_add, Int.add_assoc]

/-- The call of one iteration of the dispatch loop, whether or not the send succeeds. -/
theorem calls_recordUnit {state : σ} {job : Json} (timestamp consumerId : String)
    (call : plugin.nextUnit p.plugin = .unit state job)
    (own : ∀ msg ∈ sent, msg = p.unitMessage timestamp job) :
    Calls plugin p (p.recordUnit state (p.unitMessage timestamp job) consumerId) sent 1 := by
  refine ⟨?_, fun msg member => ?_, fun _ => rfl⟩
  · rw [Function.iterate_one, TestPlugin.after, call]
    rfl
  · rw [own msg member]
    exact ⟨0, Nat.one_pos, state, call⟩

theorem calls_refused {state : σ} (next : plugin.after p.plugin = state)
    (refused : ∀ state job, plugin.nextUnit p.plugin ≠ .unit state job) :
    Calls plugin p { p with plugin := state } [] 1 := by
  refine ⟨next.symm, nofun, fun all => ?_⟩
  obtain ⟨job, state, given⟩ := all 0 Nat.one_pos
  exact absurd given (refused state job)

theorem calls_dispatchLoop (plugin : TestPlugin σ) (env : DispatchEnv) (consumerId : String)
    (remaining i : Nat) (p : Producer σ) :
    ∃ calls, Calls plugin p (p.dispatchLoop plugin env consumerId remaining i).producer
      (p.dispatchLoop plugin env consumerId remaining i).sent calls := by
  induction remaining generalizing i p with
  | zero => exact ⟨0, .none p⟩
  | succ remaining ih =>
    unfold Producer.dispatchLoop
    cases call : plugin.nextUnit p.plugin with
    | exhausted state | threw state =>
      exact ⟨1, calls_refused (by rw [TestPlugin.after, call]) (by simp [call])⟩
    | stuck fault => exact ⟨0, .none p⟩
    | unit state job =>
      dsimp only
      cases env.sendOk i with
      | true =>
        obtain ⟨calls, rest⟩ := ih (i + 1)
          (p.recordUnit state (p.unitMessage (env.timestamp i) job) consumerId)
        exact ⟨1 + calls, (calls_recordUnit (env.timestamp i) consumerId call
          fun msg => List.mem_singleton.mp).append rest⟩
      | false =>
        exact ⟨1, calls_recordUnit (env.timestamp i) consumerId call
          fun msg none_ => absurd none_ List.not_mem_nil⟩

theorem calls_serve (plugin : TestPlugin σ) (timestamp : Nat → String)
    (requests : List WorkRequestMessage) (p : Producer σ) :
    ∃ calls, Calls plugin p (p.afterServing plugin timestamp requests)
      (p.serve plugin timestamp requests) calls := by
  induction requests generalizing p with
  | nil => exact ⟨0, .none p⟩
  | cons req rest ih =>
    obtain ⟨m, first⟩ := calls_dispatchLoop plugin ⟨timestamp, fun _ => true⟩ req.consumerId
      req.threadsAvailable.toNat 0 p
    obtain ⟨n, later⟩ := ih _
    exact ⟨m + n, first.append later⟩

/-- A job that is handed out comes from a call that the counters allow. -/
theorem HandsOut.given {job : Json} (handsOut : HandsOut plugin q job) :
    ∃ n, plugin.Gives q.plugin n job ∧
      ((∀ k, ∃ job, plugin.Gives q.plugin k job) → q.totalGenerated + n < 2 ^ 63) := by
  obtain ⟨timestamp, requests, fits, msg, member, rfl⟩ := handsOut
  obtain ⟨calls, made⟩ := calls_serve plugin timestamp requests q
  obtain ⟨n, below, given⟩ := made.gives msg member
  refine ⟨n, given, fun all => ?_⟩
  have bounded := fits.totalGenerated.2
  rw [made.counted fun k _ => all k] at bounded
  omega

end HandsOut

/-! ## What the resumed producer hands out -/

section Resumed
variable {loaded : LoadedPlugin} {inv : loaded.State → Prop} {state : loaded.State}
  {job : JobSetup} {nextSeq : Int} {events : List Event} {w : World loaded.State}

/-- The resumed producer goes on with the plugin where the first one stopped, and hands out
none of the jobs given before. -/
theorem keeps_iff_none (resumable : loaded.Resumable inv) (begun : loaded.Begun state)
    (late : loaded.plugin.RepeatsLate state)
    (reached : (producerSystem loaded.plugin).run
      (World.listening (.started job nextSeq state)) events = some w)
    (fits : w.producer.CountersFit) (dir : CheckpointDir) (now : String) (again : JobSetup) :
    KeepsOutstanding loaded w.producer dir now again ↔ ¬ HasOutstanding w.producer.tracker := by
  obtain ⟨calls, position, entries, counted⟩ := logged_run reached
  have holds : inv w.producer.plugin := by
    rw [position]
    exact TestPlugin.inv_iterate resumable.after (resumable.begun begun) calls
  have resumes := resumable.resumes dir holds now again
  constructor
  · rintro ⟨q, resumed, kept⟩ ⟨id, e, found, outstanding⟩
    cases resumes.symm.trans resumed
    obtain ⟨n, earlier, first⟩ := entries id e found
    obtain ⟨m, second, bounded⟩ := (kept id e found outstanding).given
    have behind (k : Nat) (job : Json) : loaded.plugin.Gives w.producer.plugin k job ↔
        loaded.plugin.Gives state (k + calls) job := by
      rw [position]
      exact TestPlugin.gives_iterate ..
    -- the job would have come round again, so every call so far has been counted
    obtain ⟨far, always⟩ := late n (m + calls) e.job (by omega) first ((behind m e.job).mp second)
    have before := fits.totalGenerated.2
    rw [counted fun k _ => always k] at before
    have after := bounded fun k => by
      obtain ⟨job, given⟩ := always (k + calls)
      exact ⟨job, (behind k job).mpr given⟩
    change (0 : Int) + m < 2 ^ 63 at after
    omega
  · intro none_
    exact ⟨_, resumes, fun id e found outstanding => absurd ⟨id, e, found, outstanding⟩ none_⟩

end Resumed

/-- No plugin repeats a job while its units can be counted. -/
theorem repeatsLate (config : PluginConfig) (state : (initPlugin config).State)
    (begun : (initPlugin config).Begun state) : (initPlugin config).plugin.RepeatsLate state := by
  cases config with
  | pwd config =>
    have resumable := PwdState.pwd_resumable config
    exact (PwdState.pwd_progress config).repeatsLate resumable.after (resumable.begun begun)
  | bench config sourceFile =>
    have resumable := BenchState.bench_resumable config sourceFile
    exact (BenchState.bench_progress config sourceFile).repeatsLate resumable.after
      (resumable.begun begun)
  | echo config =>
    have resumable := EchoState.echo_resumable config
    have counts := resumable.begun begun
    by_cases limited : 0 < (EchoState.configured config).totalUnits
    · exact (EchoState.echo_progress config limited).repeatsLate resumable.after counts
    · refine EchoState.repeatsLate_unlimited ?_ counts.seq counts.generated
      rw [counts.configured]
      exact Int.not_lt.mp limited

/-- At the end of every run whose counters are in range, the outstanding units survive a
checkpoint and a resume exactly when there are none. -/
theorem resume_keeps_iff (config : PluginConfig) (state : (initPlugin config).State)
    (begun : (initPlugin config).Begun state) (job : JobSetup) (nextSeq : Int)
    (events : List Event) (w : World (initPlugin config).State)
    (reached : (producerSystem (initPlugin config).plugin).run
      (World.listening (.started job nextSeq state)) events = some w)
    (fits : w.producer.CountersFit) (dir : CheckpointDir) (now : String) (again : JobSetup) :
    KeepsOutstanding (initPlugin config) w.producer dir now again ↔
      ¬ HasOutstanding w.producer.tracker := by
  obtain ⟨inv, resumable⟩ : ∃ inv, (initPlugin config).Resumable inv := by
    cases config with
    | pwd config => exact ⟨_, PwdState.pwd_resumable config⟩
    | bench config sourceFile => exact ⟨_, BenchState.bench_resumable config sourceFile⟩
    | echo config => exact ⟨_, EchoState.echo_resumable config⟩
  exact keeps_iff_none resumable begun (repeatsLate config state begun) reached fits dir now again

/-! ## Two runs of an ECHO job of one unit -/

/-- `{"total_units": 1}` -/
def oneUnitConfig : PluginConfig := .echo (some (.object [("total_units", .numberInteger 1)]))

theorem begun_oneUnit : (initPlugin oneUnitConfig).Begun EchoState.oneUnit := .fresh rfl

/-- A consumer takes the only unit. -/
def takenUnit : List Event :=
  [.accept 0, .frame 0 (VersionMessage.toJson ⟨pcVersion, "cons-1"⟩) .quiet, .loopTest 0,
    .frame 0 (WorkRequestMessage.toJson ⟨"cons-1", 1, ""⟩) .quiet]

/-- Its result comes back before the producer is stopped. -/
def answeredUnit : List Event :=
  takenUnit ++ [.loopTest 0,
    .frame 0 (ResultMessage.toJson ⟨"prod-1-0", 0, "cons-1", "success", .object [], "", none, none⟩)
      .quiet]

/-- The unit has been handed out and completed, and nothing is left to keep. -/
theorem resume_keeps_iff_answered :
    ∃ w, (producerSystem createEchoPlugin).run
        (World.listening (.started echoJob 0 .oneUnit)) answeredUnit = some w ∧
      w.producer.tracker.status "prod-1-0" = some .completed ∧
        KeepsOutstanding (initPlugin oneUnitConfig) w.producer .fresh "" echoJob := by
  have evidence : ((producerSystem createEchoPlugin).run
      (World.listening (.started echoJob 0 EchoState.oneUnit)) answeredUnit).any (fun w =>
        w.producer.tracker.status "prod-1-0" = some .completed &&
          w.producer.tracker.entries.items.all (!WorkTracker.isOutstanding ·) &&
            decide w.producer.CountersFit) = true := by
    decide +kernel
  obtain ⟨w, reached, holds⟩ := (Option.any_eq_true _ _).mp evidence
  simp only [Bool.and_eq_true, decide_eq_true_eq] at holds
  obtain ⟨⟨completed, settled⟩, fits⟩ := holds
  refine ⟨w, reached, completed, ?_⟩
  refine (resume_keeps_iff oneUnitConfig .oneUnit begun_oneUnit echoJob 0 answeredUnit w reached
    fits .fresh "" echoJob).mpr ?_
  rintro ⟨id, e, found, outstanding⟩
  have done := List.all_eq_true.mp settled e (KeyedStore.mem_of_find found)
  rw [outstanding] at done
  cases done

/-- The producer is stopped before the result: the resumed one never sends the unit. -/
theorem taken_unit_is_lost :
    ¬ ∀ (config : PluginConfig) (state : (initPlugin config).State),
      (initPlugin config).Begun state → ∀ (job : JobSetup) (nextSeq : Int) (events : List Event)
        (w : World (initPlugin config).State),
        (producerSystem (initPlugin config).plugin).run
            (World.listening (.started job nextSeq state)) events = some w →
          w.producer.CountersFit → ∀ (dir : CheckpointDir) (now : String) (again : JobSetup),
            KeepsOutstanding (initPlugin config) w.producer dir now again := by
  intro claimed
  have evidence : ((producerSystem createEchoPlugin).run
      (World.listening (.started echoJob 0 EchoState.oneUnit)) takenUnit).any (fun w =>
        w.producer.tracker.entries.items.any WorkTracker.isOutstanding &&
          decide w.producer.CountersFit) = true := by
    decide +kernel
  obtain ⟨w, reached, holds⟩ := (Option.any_eq_true _ _).mp evidence
  simp only [Bool.and_eq_true, decide_eq_true_eq] at holds
  obtain ⟨outstanding, fits⟩ := holds
  obtain ⟨e, member, outstanding⟩ := List.any_eq_true.mp outstanding
  have kept := claimed oneUnitConfig EchoState.oneUnit begun_oneUnit echoJob 0 takenUnit w reached
    fits .fresh "" echoJob
  exact (keeps_iff_none (EchoState.echo_resumable _) begun_oneUnit
    (repeatsLate oneUnitConfig EchoState.oneUnit begun_oneUnit) reached fits .fresh "" echoJob).mp
      kept ⟨e.workUnitId, e, KeyedStore.find_of_mem member, outstanding⟩

end PnC.Guarantees.CheckpointResume
