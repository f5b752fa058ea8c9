import PnC.Source.ResumedProducer

/-!
# Sequence numbers across a resume

A resumed producer goes on with the number after the last completed one, in the order in
which results arrived, not after the last one handed out. Its numbers are new exactly
when the two agree, or when its plugin has nothing left to number.
-/
namespace PnC.Guarantees.ResumedNumbers

open PnC.Library PnC.Source

/-- The states and values of next_seq_ with which a producer of this configuration begins,
and the numbers that had been handed out by then: none for a new producer, and for a
resumed one those of all the runs before. -/
inductive Lineage (loaded : LoadedPlugin) : loaded.State → Int → (Int → Prop) → Prop where
  | fresh {state : loaded.State} (started : loaded.startup .null = .ok state) :
      Lineage loaded state 0 fun _ => False
  | resumed {state : loaded.State} {first : Int} {used : Int → Prop} {job again : JobSetup}
      {events : List Event} {w : World loaded.State} {dir : CheckpointDir} {now : String}
      {q : Producer loaded.State} (earlier : Lineage loaded state first used)
      (reached : (producerSystem loaded.plugin).run
        (World.listening (.started job first state)) events = some w)
      (resumes : loaded.resume (loaded.writeFinalCheckpoint dir w.producer now) again = .ok q) :
      Lineage loaded q.plugin q.nextSeq fun seq => used seq ∨ Assigned w.producer seq

/-- Every number that the resumed producer hands out, in any run, is greater than every
number handed out before the checkpoint, in this run or in one before it. -/
def NumbersGrow (loaded : LoadedPlugin) (used : Int → Prop) (p : Producer loaded.State)
    (dir : CheckpointDir) (now : String) (job : JobSetup) : Prop :=
  ∀ q, loaded.resume (loaded.writeFinalCheckpoint dir p now) job = .ok q →
    ∀ events w, (producerSystem loaded.plugin).run (World.listening q) events = some w →
      ∀ old new, used old ∨ Assigned p old → Assigned w.producer new → old < new

/-- No number has been handed out above the last completed one, which load_checkpoint
reads as an int. -/
def CompletedHighest {σ : Type} (used : Int → Prop) (p : Producer σ) : Prop :=
  ∀ seq, used seq ∨ Assigned p seq → seq ≤ toInt32 p.tracker.lastCompletedSeq

theorem Lineage.begun {loaded : LoadedPlugin} {state : loaded.State} {first : Int}
    {used : Int → Prop} (lineage : Lineage loaded state first used) : loaded.Begun state := by
  induction lineage with
  | fresh started => exact .fresh started
  | resumed _ reached resumes ih => exact .resumed ih reached resumes

/-! ## A run that asks for a unit -/

section OneRequest
variable {σ : Type} (plugin : TestPlugin σ)

/-- A consumer asks for one unit. -/
def oneRequest : Event :=
  .datagram "10.0.0.2" 40000 (WorkRequestMessage.toJson ⟨"cons-1", 1, ""⟩) .quiet

/-- The unit that the plugin gives is handed out under the next number; if it gives none,
only its state has changed. -/
theorem oneRequest_step {w : World σ} (numbered : Numbered w.producer) :
    ∃ after, (producerSystem plugin).step w oneRequest = some after ∧
      (Assigned after.producer w.producer.nextSeq ∨
        (∀ state job, plugin.nextUnit w.producer.plugin ≠ .unit state job) ∧
          after.producer =
            { w.producer.updateConsumerActivity "cons-1" w.clock with
              plugin := plugin.after w.producer.plugin }) := by
  let touched := w.producer.updateConsumerActivity "cons-1" w.clock
  have producer : ∃ after, (producerSystem plugin).step w oneRequest = some after ∧
      after.producer =
        (touched.dispatchLoop plugin ⟨fun _ => "", fun _ => true⟩ "cons-1" 1 0).producer :=
    ⟨_, rfl, rfl⟩
  obtain ⟨after, taken, served⟩ := producer
  refine ⟨after, taken, ?_⟩
  have same : touched.plugin = w.producer.plugin := rfl
  rw [served, Producer.dispatchLoop, same]
  unfold TestPlugin.after
  cases call : plugin.nextUnit w.producer.plugin with
  | unit state job =>
    refine Or.inl ?_
    exact (assigned_recordUnit (p := touched) numbered state "" "cons-1" job _).mpr (Or.inl rfl)
  | exhausted | threw | stuck =>
    refine Or.inr ⟨fun _ _ gives => ?_, rfl⟩
    cases gives

/-- A plugin that would give a unit after `n` calls gives one to a consumer that asks for
one `n + 1` times. -/
theorem assigns_next {w : World σ} (numbered : Numbered w.producer) {n : Nat} {job : Json}
    (gives : plugin.Gives w.producer.plugin n job) :
    ∃ events after, (producerSystem plugin).run w events = some after ∧
      Assigned after.producer w.producer.nextSeq := by
  induction n generalizing w with
  | zero =>
    obtain ⟨after, taken, assigned | ⟨refused, -⟩⟩ := oneRequest_step plugin numbered
    · refine ⟨[oneRequest], after, ?_, assigned⟩
      rw [TransitionSystem.run_cons, taken]
      rfl
    · obtain ⟨state, call⟩ := gives
      exact absurd call (refused state job)
  | succ n ih =>
    obtain ⟨after, taken, assigned | ⟨-, position⟩⟩ := oneRequest_step plugin numbered
    · refine ⟨[oneRequest], after, ?_, assigned⟩
      rw [TransitionSystem.run_cons, taken]
      rfl
    · have later := (TestPlugin.gives_iterate w.producer.plugin 1 n job).mpr gives
      obtain ⟨events, final, reached, assigned⟩ := ih (w := after)
        (by rw [position]; exact numbered) (by rw [position]; exact later)
      refine ⟨oneRequest :: events, final, ?_, ?_⟩
      · rw [TransitionSystem.run_cons, taken]
        exact reached
      · rw [position] at assigned
        exact assigned

end OneRequest

/-- A plugin that has nothing left to give has nothing numbered. -/
theorem none_assigned {σ : Type} {plugin : TestPlugin σ} {state : σ}
    (finished : ∀ n job, ¬ plugin.Gives state n job) {job : JobSetup} {first : Int}
    {events : List Event} {w : World σ}
    (reached : (producerSystem plugin).run (World.listening (.started job first state)) events =
      some w) (seq : Int) : ¬ Assigned w.producer seq := by
  rintro ⟨id, given⟩
  obtain ⟨e, found, -⟩ := Option.map_eq_some_iff.mp given
  obtain ⟨calls, -, entries, -⟩ := logged_run reached
  obtain ⟨n, -, gives⟩ := entries id e found
  exact finished n e.job gives

/-- A producer that is checkpointed and resumed, after any run, numbers its units above
all the earlier ones exactly when none of those is above the last completed one, or when
its plugin has no unit left. -/
theorem numbers_grow_iff (config : PluginConfig) (state : (initPlugin config).State) (first : Int)
    (used : Int → Prop) (lineage : Lineage (initPlugin config) state first used) (job : JobSetup)
    (events : List Event) (w : World (initPlugin config).State)
    (reached : (producerSystem (initPlugin config).plugin).run
      (World.listening (.started job first state)) events = some w)
    (dir : CheckpointDir) (now : String) (again : JobSetup) :
    NumbersGrow (initPlugin config) used w.producer dir now again ↔
      CompletedHighest used w.producer ∨
        ∀ n job, ¬ (initPlugin config).plugin.Gives w.producer.plugin n job := by
  obtain ⟨inv, resumable⟩ := initPlugin_resumable config
  have holds : inv w.producer.plugin := by
    obtain ⟨calls, position, -⟩ := logged_run reached
    rw [position]
    exact TestPlugin.inv_iterate resumable.after (resumable.begun lineage.begun) calls
  unfold NumbersGrow
  rw [resumable.resumes dir holds]
  constructor
  · intro grows
    by_cases finished : ∀ n job, ¬ (initPlugin config).plugin.Gives w.producer.plugin n job
    · exact Or.inr finished
    · push Not at finished
      obtain ⟨n, job, gives⟩ := finished
      refine Or.inl fun seq old => ?_
      have numbered := numbered_started again (toInt32 w.producer.tracker.lastCompletedSeq + 1)
        w.producer.plugin
      obtain ⟨events, after, run, new⟩ := assigns_next (initPlugin config).plugin
        (w := World.listening (.started again _ w.producer.plugin)) numbered gives
      exact Int.lt_add_one_iff.mp (grows _ rfl events after run seq _ old new)
  · rintro (highest | finished) q resumed events w' run old new assignedOld assignedNew
    · cases resumed
      have low := ((counted_run run).assigned new).mp assignedNew
      have high := highest old assignedOld
      omega
    · cases resumed
      exact absurd assignedNew (none_assigned finished run new)

/-- A unit is handed out and its result comes back. -/
def answeredRequest : List Event :=
  [oneRequest,
    .datagram "10.0.0.2" 40000
      (ResultMessage.toJson ⟨"prod-1-0", 0, "cons-1", "success", .object [], "", none, none⟩)
      .quiet]

theorem numbers_grow_iff_answered :
    ∃ w, (producerSystem createEchoPlugin).run (World.listening (.started echoJob 0 EchoState.new))
        answeredRequest = some w ∧
      (NumbersGrow (initPlugin (.echo none)) (fun _ => False) w.producer .fresh "" echoJob ↔
        CompletedHighest (fun _ => False) w.producer ∨
          ∀ n job, ¬ createEchoPlugin.Gives w.producer.plugin n job) :=
  ⟨_, rfl, numbers_grow_iff (.echo none) EchoState.new 0 _ (.fresh rfl) echoJob answeredRequest _
    rfl .fresh "" echoJob⟩

/-- A unit is handed out and the producer stopped before its result: the resumed producer
hands out the same number. -/
theorem unanswered_number_repeats :
    ¬ ∀ (config : PluginConfig) (state : (initPlugin config).State) (first : Int)
      (used : Int → Prop), Lineage (initPlugin config) state first used →
        ∀ (job : JobSetup) (events : List Event) (w : World (initPlugin config).State),
          (producerSystem (initPlugin config).plugin).run
              (World.listening (.started job first state)) events = some w →
            ∀ (dir : CheckpointDir) (now : String) (again : JobSetup),
              NumbersGrow (initPlugin config) used w.producer dir now again := by
  intro claimed
  have grows := claimed (.echo none) EchoState.new 0 _ (.fresh rfl) echoJob [oneRequest] _ rfl
    .fresh "" echoJob
  have below := grows _ rfl [oneRequest] _ rfl 0 0 (Or.inr ⟨"prod-1-0", rfl⟩) ⟨"prod-1-0", rfl⟩
  exact absurd below (Int.lt_irrefl 0)

end PnC.Guarantees.ResumedNumbers
