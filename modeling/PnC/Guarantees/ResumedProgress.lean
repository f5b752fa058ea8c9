import PnC.Source.ResumedProducer

/-!
# Progress of resumed runs

load_checkpoint reads last_completed_seq into next_seq_ and the plugin state into the
plugin, and nothing into the tracker or total_generated_. A resumed run counts from
zero, and its checkpoints record the run alone.
-/
namespace PnC.Guarantees.ResumedProgress

open PnC.Library PnC.Source

/-- The later checkpoint records no less than the earlier one. -/
structure NotBehind (earlier later : CheckpointState) : Prop where
  lastCompletedSeq : earlier.lastCompletedSeq ≤ later.lastCompletedSeq
  completedCount : earlier.completedCount ≤ later.completedCount
  totalJobs : earlier.totalJobs ≤ later.totalJobs

section Counting
variable {σ : Type} (plugin : TestPlugin σ)

/-! ## What the messages of a run bring about -/

/-- The units that a request for `threads` of them is given, one call of next_unit and
one send each, from the `i`-th send on. -/
def unitsGiven (sendOk : Nat → Bool) : (threads : Nat) → (i : Nat) → σ → Nat
  | 0, _, _ => 0
  | threads + 1, i, s =>
    match plugin.nextUnit s with
    | .unit next _ => 1 + if sendOk i then unitsGiven sendOk threads (i + 1) next else 0
    | _ => 0

/-- The units that the producer generates for a message. -/
def unitsFor (sendOk : Nat → Bool) (p : Producer σ) (j : Json) : Nat :=
  match msgType j with
  | .ok "work_request" =>
    match WorkRequestMessage.fromJson j with
    | .ok req => unitsGiven plugin sendOk req.threadsAvailable.toNat 0 p.plugin
    | .error _ => 0
  | _ => 0

/-- The units that a message completes: one, if it is their success. -/
def completionsFor (p : Producer σ) (j : Json) : Nat :=
  match msgType j with
  | .ok "result" =>
    match ResultMessage.fromJson j with
    | .ok result => if Completes p result then 1 else 0
    | .error _ => 0
  | _ => 0

theorem unitsFor_other (sendOk : Nat → Bool) (p : Producer σ) {j : Json} {kind : String}
    (other : msgType j = .ok kind) (notRequest : kind = "work_request" → False) :
    unitsFor plugin sendOk p j = 0 := by
  unfold unitsFor
  rw [other]
  split
  next same => exact absurd (Except.ok.inj same) notRequest
  next => rfl

theorem completionsFor_other (p : Producer σ) {j : Json} {kind : String}
    (other : msgType j = .ok kind) (notResult : kind = "result" → False) :
    completionsFor p j = 0 := by
  unfold completionsFor
  rw [other]
  split
  next same => exact absurd (Except.ok.inj same) notResult
  next => rfl

/-- The message that the step hands to the loop of handle_client or to
handle_udp_message, with what becomes of the sends. -/
def handed (w : World σ) : Event → Option (Json × (Nat → Bool))
  | .frame n j env =>
    if (w.connections n).any (·.stage = .receiving) then some (j, env.sendOk) else none
  | .datagram _ _ j _ => some (j, fun _ => true)
  | _ => none

/-- The number of units that the step generates. -/
def generates (w : World σ) (event : Event) : Nat :=
  match handed w event with
  | some (j, sendOk) => unitsFor plugin sendOk w.producer j
  | none => 0

/-- The number of success results for units of this run that the step takes. -/
def completes (w : World σ) (event : Event) : Nat :=
  match handed w event with
  | some (j, _) => completionsFor w.producer j
  | none => 0

/-! ## The counters follow them -/

/-- The producer has generated and completed this many units more. -/
structure Grown (p q : Producer σ) (units completions : Nat) : Prop where
  totalGenerated : q.totalGenerated = p.totalGenerated + units
  completedCount : q.tracker.completedCount = p.tracker.completedCount + completions

theorem grown_same {p q : Producer σ} (totalGenerated : q.totalGenerated = p.totalGenerated)
    (completedCount : q.tracker.completedCount = p.tracker.completedCount) : Grown p q 0 0 :=
  ⟨totalGenerated.trans (Int.add_zero _).symm, completedCount.trans (Int.add_zero _).symm⟩

theorem grown_dispatchLoop (env : DispatchEnv) (consumerId : String) (remaining i : Nat)
    (p : Producer σ) :
    Grown p (p.dispatchLoop plugin env consumerId remaining i).producer
      (unitsGiven plugin env.sendOk remaining i p.plugin) 0 := by
  induction remaining generalizing i p with
  | zero => exact grown_same rfl rfl
  | succ remaining ih =>
    unfold Producer.dispatchLoop unitsGiven
    cases call : plugin.nextUnit p.plugin with
    | unit state job =>
      dsimp only
      split
      next =>
        obtain ⟨generated, completed⟩ :=
          ih (i + 1) (p.recordUnit state (p.unitMessage (env.timestamp i) job) consumerId)
        refine ⟨generated.trans ?_, completed⟩
        simp only [Producer.recordUnit]
        omega
      next => exact ⟨rfl, (Int.add_zero _).symm⟩
    | exhausted | threw | stuck => exact grown_same rfl rfl

theorem grown_handleResult (p : Producer σ) (result : ResultMessage) :
    Grown p (p.handleResult result) 0 (if Completes p result then 1 else 0) := by
  obtain ⟨generated, counters⟩ := counters_handleResult p result
  refine ⟨generated.trans (Int.add_zero _).symm, ?_⟩
  split at counters
  next completes =>
    rw [if_pos completes]
    exact counters.2
  next stale =>
    rw [if_neg stale]
    exact counters.2.trans (Int.add_zero _).symm

/-- Only the registrations differ. -/
def SameButConsumers (p q : Producer σ) : Prop :=
  q = { p with connectedConsumers := q.connectedConsumers }

theorem sameButConsumers_register (p : Producer σ) (consumerId : String) (socket now : Nat) :
    SameButConsumers p (p.registerConsumer consumerId socket now) :=
  Producer.registerConsumer_eq p consumerId socket now

theorem sameButConsumers_adopt (w : World σ) (n : Nat) (c : Connection) (consumerId : String) :
    SameButConsumers w.producer (w.adopt n c consumerId) := by
  unfold World.adopt
  split
  · exact sameButConsumers_register ..
  · rfl

theorem SameButConsumers.touch {p q : Producer σ} (same : SameButConsumers p q)
    (consumerId : String) (now : Nat) :
    SameButConsumers p (q.updateConsumerActivity consumerId now) := by
  unfold SameButConsumers at same
  rw [same]
  rfl

theorem SameButConsumers.grown {p q r : Producer σ} {units completions : Nat}
    (same : SameButConsumers p q) (grown : Grown q r units completions) :
    Grown p r units completions := by
  unfold SameButConsumers at same
  rw [same] at grown
  exact ⟨grown.totalGenerated, grown.completedCount⟩

theorem grown_consumers {p q : Producer σ} (same : SameButConsumers p q) : Grown p q 0 0 :=
  same.grown (grown_same rfl rfl)

theorem grown_handshakeFrame (w : World σ) (n : Nat) (c : Connection) (j : Json)
    (env : HandlerEnv) : Grown w.producer (w.handshakeFrame n c j env).producer 0 0 := by
  unfold World.handshakeFrame
  split
  next => exact grown_same rfl rfl
  next =>
    split
    next => exact grown_same rfl rfl
    next =>
      split
      · split
        · exact grown_same rfl rfl
        · exact grown_consumers (sameButConsumers_register ..)
      · exact grown_same rfl rfl
  next => exact grown_same rfl rfl

theorem grown_requestFrame (w : World σ) (n : Nat) (c : Connection) (req : WorkRequestMessage)
    (env : HandlerEnv) :
    Grown w.producer (w.requestFrame plugin n c req env).producer
      (unitsGiven plugin env.sendOk req.threadsAvailable.toNat 0 w.producer.plugin) 0 := by
  let registered :=
    if c.consumerId = "" then w.producer.registerConsumer req.consumerId n w.clock
    else w.producer
  have same : SameButConsumers w.producer registered := by
    unfold registered
    split
    · exact sameButConsumers_register ..
    · rfl
  have plugins : registered.plugin = w.producer.plugin := by
    rw [show registered = _ from same]
  have grown := grown_dispatchLoop plugin env.toDispatchEnv req.consumerId
    req.threadsAvailable.toNat 0 (registered.updateConsumerActivity req.consumerId w.clock)
  rw [← plugins]
  exact (same.touch ..).grown grown

theorem grown_resultFrame (w : World σ) (n : Nat) (c : Connection) (result : ResultMessage) :
    Grown w.producer (w.resultFrame n c result).producer 0
      (if Completes w.producer result then 1 else 0) := by
  have same := (sameButConsumers_adopt w n c result.consumerId).touch
    (World.adoptedId c result.consumerId) w.clock
  have grown := grown_handleResult
    ((w.adopt n c result.consumerId).updateConsumerActivity (World.adoptedId c result.consumerId)
      w.clock) result
  have completes : Completes ((w.adopt n c result.consumerId).updateConsumerActivity
      (World.adoptedId c result.consumerId) w.clock) result ↔ Completes w.producer result := by
    rw [show _ = _ from same]
    exact Iff.rfl
  rw [if_congr completes rfl rfl] at grown
  exact same.grown grown

theorem grown_loopFrame (w : World σ) (n : Nat) (c : Connection) (j : Json) (env : HandlerEnv) :
    Grown w.producer (w.loopFrame plugin n c j env).producer
      (unitsFor plugin env.sendOk w.producer j) (completionsFor w.producer j) := by
  unfold World.loopFrame
  split
  next kind =>
    simp only [unitsFor, completionsFor, kind]
    exact grown_same rfl rfl
  next kind =>
    rw [completionsFor_other w.producer kind (by decide)]
    simp only [unitsFor, kind]
    cases WorkRequestMessage.fromJson j with
    | error => exact grown_same rfl rfl
    | ok req => exact grown_requestFrame plugin (w.receive (.tcp n) j) n c req env
  next kind =>
    rw [unitsFor_other plugin env.sendOk w.producer kind (by decide)]
    simp only [completionsFor, kind]
    cases ResultMessage.fromJson j with
    | error => exact grown_same rfl rfl
    | ok result => exact grown_resultFrame (w.receive (.tcp n) j) n c result
  next kind =>
    rw [unitsFor_other plugin env.sendOk w.producer kind (by decide),
      completionsFor_other w.producer kind (by decide)]
    cases HeartbeatMessage.fromJson j with
    | error => exact grown_same rfl rfl
    | ok hb =>
      exact grown_consumers ((sameButConsumers_adopt (w.receive (.tcp n) j) n c hb.consumerId).touch
        (World.adoptedId c hb.consumerId) w.clock)
  next other notRequest notResult _ kind =>
    rw [unitsFor_other plugin env.sendOk w.producer kind notRequest,
      completionsFor_other w.producer kind notResult]
    exact grown_same rfl rfl

theorem grown_handleUdpMessage (w : World σ) (address : String) (port : Nat) (j : Json)
    (env : HandlerEnv) :
    Grown w.producer (w.handleUdpMessage plugin address port j env).producer
      (unitsFor plugin (fun _ => true) w.producer j) (completionsFor w.producer j) := by
  unfold World.handleUdpMessage
  split
  next kind =>
    simp only [unitsFor, completionsFor, kind]
    exact grown_same rfl rfl
  next kind =>
    rw [unitsFor_other plugin _ w.producer kind (by decide),
      completionsFor_other w.producer kind (by decide)]
    split
    next => exact grown_same rfl rfl
    next =>
      split
      · exact grown_same rfl rfl
      · exact grown_consumers (Producer.registerConsumerUdp_eq ..)
  next kind =>
    rw [completionsFor_other w.producer kind (by decide)]
    simp only [unitsFor, kind]
    cases WorkRequestMessage.fromJson j with
    | error => exact grown_same rfl rfl
    | ok req =>
      have same : SameButConsumers w.producer
          (w.producer.updateConsumerActivity req.consumerId w.clock) := rfl
      exact same.grown (grown_dispatchLoop plugin ⟨env.timestamp, fun _ => true⟩ req.consumerId
        req.threadsAvailable.toNat 0 _)
  next kind =>
    rw [unitsFor_other plugin _ w.producer kind (by decide)]
    simp only [completionsFor, kind]
    cases ResultMessage.fromJson j with
    | error => exact grown_same rfl rfl
    | ok result =>
      have same : SameButConsumers w.producer
          (w.producer.updateConsumerActivity result.consumerId w.clock) := rfl
      exact same.grown (grown_handleResult _ result)
  next kind =>
    rw [unitsFor_other plugin _ w.producer kind (by decide),
      completionsFor_other w.producer kind (by decide)]
    split
    next => exact grown_same rfl rfl
    next => exact grown_same rfl rfl
  next other _ notRequest notResult _ kind =>
    rw [unitsFor_other plugin _ w.producer kind notRequest,
      completionsFor_other w.producer kind notResult]
    exact grown_same rfl rfl

theorem grown_evict {w after : World σ} {consumerId : String}
    (evicted : w.evict consumerId = some after) : Grown w.producer after.producer 0 0 := by
  rw [World.producer_evict evicted]
  exact grown_same rfl rfl

/-- Every step raises the counters by what its message brings about. -/
theorem grown_step (w : World σ) (event : Event) (after : World σ)
    (taken : (producerSystem plugin).step w event = some after) :
    Grown w.producer after.producer (generates plugin w event) (completes w event) := by
  cases world_step taken with
  | handshake n c j env present stage =>
    have idle : handed w (.frame n j env) = none := by simp [handed, present, stage]
    simp only [generates, completes, idle]
    exact grown_handshakeFrame w n c j env
  | inLoop n c j env present stage =>
    have loop : handed w (.frame n j env) = some (j, env.sendOk) := by
      simp [handed, present, stage]
    simp only [generates, completes, loop]
    exact grown_loopFrame plugin w n c j env
  | datagram address port j env => exact grown_handleUdpMessage plugin w address port j env
  | monitorEvict consumerId rest _ stale evicted =>
    exact grown_evict (w := { w with stale := rest }) evicted
  | accept | broken | loopTest | tick | monitorScan | stop => exact grown_same rfl rfl
  | reclaim | unregister =>
    simp only [World.setConnection]
    split <;> exact grown_same rfl rfl

/-- The counters of a run that began with an empty tracker are what its messages have
brought about. -/
theorem counters_run {job : JobSetup} {first : Int} {state : σ} {events : List Event} {w : World σ}
    (reached : (producerSystem plugin).run (World.listening (.started job first state)) events =
      some w) :
    w.producer.totalGenerated = ((producerSystem plugin).tally (generates plugin)
        (World.listening (.started job first state)) events : Int) ∧
      w.producer.tracker.completedCount = ((producerSystem plugin).tally completes
        (World.listening (.started job first state)) events : Int) := by
  constructor
  · have generated := TransitionSystem.run_tally (fun w => w.producer.totalGenerated)
      (fun s e t taken => (grown_step plugin s e t taken).totalGenerated) reached
    exact generated.trans (Int.zero_add _)
  · have completed := TransitionSystem.run_tally (fun w => w.producer.tracker.completedCount)
      (fun s e t taken => (grown_step plugin s e t taken).completedCount) reached
    exact completed.trans (Int.zero_add _)

end Counting

/-! ## Checkpoints of a resumed run -/

section Resumed
variable (loaded : LoadedPlugin)

/-- Every checkpoint that the resumed producer writes, in any run, records no less than
the one it was resumed from. -/
def KeepsProgress (c : CheckpointState) (q : Producer loaded.State) : Prop :=
  ∀ events w now, (producerSystem loaded.plugin).run (World.listening q) events = some w →
    NotBehind c (w.producer.checkpointState loaded.plugin now)

/-- The checkpoint records nothing done: no unit completed, none generated. -/
structure NothingDone (c : CheckpointState) : Prop where
  lastCompletedSeq : c.lastCompletedSeq ≤ -1
  completedCount : c.completedCount ≤ 0
  totalJobs : c.totalJobs ≤ 0

/-- The events have the resumed producer redo what the checkpoint records: one success
for a unit of the new run if a last completed unit is recorded, as many as are recorded as
completed, and as many units given as were generated. -/
structure Redone (c : CheckpointState) (q : Producer loaded.State) (events : List Event) :
    Prop where
  lastCompletedSeq : c.lastCompletedSeq ≤ -1 ∨
    0 < (producerSystem loaded.plugin).tally completes (World.listening q) events
  completedCount :
    c.completedCount ≤ (producerSystem loaded.plugin).tally completes (World.listening q) events
  totalJobs : c.totalJobs ≤
    (producerSystem loaded.plugin).tally (generates loaded.plugin) (World.listening q) events

variable {loaded}

/-- A checkpoint of a resumed run: its counts are those of the run, and its last
completed number is none or one after the number that was read. -/
theorem checkpoint_resumed {c : CheckpointState} {dir : CheckpointDir} {job : JobSetup}
    {q : Producer loaded.State} (resumed : loaded.resume (dir.save c) job = .ok q)
    {events : List Event} {w : World loaded.State}
    (reached : (producerSystem loaded.plugin).run (World.listening q) events = some w)
    (now : String) :
    let later := w.producer.checkpointState loaded.plugin now
    let completions := (producerSystem loaded.plugin).tally completes (World.listening q) events
    later.totalJobs =
        (producerSystem loaded.plugin).tally (generates loaded.plugin) (World.listening q) events ∧
      later.completedCount = completions ∧
      (completions = 0 ∧ later.lastCompletedSeq = -1 ∨
        0 < completions ∧ toInt32 c.lastCompletedSeq < later.lastCompletedSeq) := by
  have start := LoadedPlugin.started_of_resume (CheckpointDir.load_save dir c) resumed
  dsimp only
  rw [start] at reached ⊢
  obtain ⟨generated, completed⟩ := counters_run loaded.plugin reached
  have counted := counted_run reached
  refine ⟨generated, completed, ?_⟩
  rcases counted.completed with ⟨none, last⟩ | ⟨positive, last⟩
  · rw [completed] at none
    exact Or.inl ⟨Int.ofNat.inj none, last⟩
  · rw [completed] at positive
    have first := ((counted.assigned _).mp last).1
    exact Or.inr ⟨Int.ofNat_lt.mp positive, Int.lt_of_add_one_le first⟩

/-- The reduction to int makes no negative number smaller. -/
theorem le_toInt32 {n : Int} (negative : n ≤ -1) : n ≤ toInt32 n := by
  by_cases low : n < -2 ^ 31
  · have fits := (fits_toInt32 n).1
    omega
  · rw [toInt32_of_fits ⟨by omega, by omega⟩]

/-- A resumed producer never falls behind its checkpoint exactly when the checkpoint
records nothing done; and one run of it does not exactly when it has redone what the
checkpoint records. -/
theorem progress_kept_iff (c : CheckpointState) (dir : CheckpointDir) (job : JobSetup)
    (q : Producer loaded.State) (resumed : loaded.resume (dir.save c) job = .ok q) :
    (KeepsProgress loaded c q ↔ NothingDone c) ∧
      (FitsInt32 c.lastCompletedSeq → ∀ events w now,
        (producerSystem loaded.plugin).run (World.listening q) events = some w →
          (NotBehind c (w.producer.checkpointState loaded.plugin now) ↔
            Redone loaded c q events)) := by
  refine ⟨⟨fun keeps => ?_, fun none events w now reached => ?_⟩,
    fun fits events w now reached => ?_⟩
  · -- the run that stops before its first message
    have stopped : (producerSystem loaded.plugin).run (World.listening q) [] =
      some (World.listening q) := rfl
    obtain ⟨units, completions, last⟩ := checkpoint_resumed resumed stopped ""
    obtain ⟨low, completed, total⟩ := keeps [] _ "" stopped
    simp only [TransitionSystem.tally] at units completions last
    constructor <;> omega
  · obtain ⟨units, completions, last⟩ := checkpoint_resumed resumed reached now
    obtain ⟨low, completed, total⟩ := none
    have kept := le_toInt32 low
    constructor <;> omega
  · obtain ⟨units, completions, last⟩ := checkpoint_resumed resumed reached now
    rw [toInt32_of_fits fits] at last
    constructor
    · rintro ⟨low, completed, total⟩
      constructor <;> omega
    · rintro ⟨low, completed, total⟩
      constructor <;> omega

end Resumed

/-- An echo run whose only unit has come back. -/
def oneCompleted : CheckpointState where
  producerId := "prod-1"
  sourceFile := ""
  permutation := "sequential"
  permutationSeed := 0
  totalJobs := 1
  lastCompletedSeq := 0
  lastCompletedWorkUnitId := ""
  completedCount := 1
  pendingCount := 0
  failedCount := 0
  checkpointTimestamp := ""
  consumersConnected := [⟨"cons-1", 0⟩]
  pluginState := some (.object [("generated", .numberInteger 1), ("seq", .numberInteger 1)])

theorem progress_kept_iff_one_completed :
    ∃ q, (initPlugin (.echo none)).resume (CheckpointDir.fresh.save oneCompleted) echoJob = .ok q ∧
      (KeepsProgress (initPlugin (.echo none)) oneCompleted q ↔ NothingDone oneCompleted) :=
  ⟨_, rfl, (progress_kept_iff oneCompleted .fresh echoJob _ rfl).1⟩

/-- A resumed producer that is stopped before any request records -1, none and none. -/
theorem resumed_and_stopped_at_once :
    ¬ ∀ (config : PluginConfig) (c : CheckpointState) (dir : CheckpointDir) (job : JobSetup)
      (q : Producer (initPlugin config).State),
        (initPlugin config).resume (dir.save c) job = .ok q →
          KeepsProgress (initPlugin config) c q := by
  intro claimed
  have kept := claimed (.echo none) oneCompleted .fresh echoJob _ rfl [] _ "" rfl
  exact absurd kept.lastCompletedSeq (by decide)

end PnC.Guarantees.ResumedProgress
