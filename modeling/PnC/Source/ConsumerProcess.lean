import PnC.Source.ConsumerMoves

/-!
# The process of a consumer

Beside the threads of `consumerSystem` there is the heartbeat thread, which shutdown joins
behind the receiver and before it drains the pool, and the exit of a download, which ends the
process whatever its other threads are doing. Every send returns here, with or without an
exception: the source sets no timeout for sends, so one to a peer that reads nothing can block
for ever.
-/
namespace PnC.Source

open PnC.Library

/-- Where heartbeat_loop stands: in front of its condition, asleep, in its send, or behind the
loop. The socket is closed behind the joins only. -/
inductive HeartbeatPhase where
  | atLoop | sleeping | sending | left
  deriving DecidableEq

structure ConsumerProcess where
  consumer : Consumer
  heartbeat : HeartbeatPhase
  /-- the code of the exit -/
  exited : Option Nat

inductive ProcessEvent where
  | consumer (event : ConsumerEvent)
  /-- a first unit whose download calls exit -/
  | exits (bytes : List UInt8) (fs : FileSystem) (server : FileServer)
  /-- a step of the heartbeat thread, and whether its send succeeds -/
  | heartbeat (sent : Bool)

namespace ConsumerProcess

/-- run has started the two threads. -/
def start : ConsumerProcess := ⟨.start, .atLoop, none⟩

/-- heartbeat_loop -/
def nextHeartbeat (running sent : Bool) : HeartbeatPhase → Option HeartbeatPhase
  | .atLoop => some (if running then .sleeping else .left)
  | .sleeping => some (if running then .sending else .left)
  | .sending => some (if sent then .atLoop else .left)
  | .left => none

/-- drain_pending is called behind `heartbeat_thread_.join()`. -/
def joined (s : ConsumerProcess) : ConsumerEvent → Bool
  | .pool .owner => decide (s.heartbeat = .left)
  | _ => true

/-- The code with which a frame makes the receiver exit. -/
def exitCode (config : ConsumerConfig) (s : Consumer) (bytes : List UInt8) (fs : FileSystem)
    (server : FileServer) : Option Nat :=
  match s.phase with
  | .receiving =>
    match s.receiver.pass config.receiver bytes fs server with
    | (_, .exits code) => some code
    | _ => none
  | _ => none

end ConsumerProcess

def processSystem (config : ConsumerConfig) : TransitionSystem ConsumerProcess ProcessEvent where
  step s event :=
    match s.exited with
    | some _ => none
    | none =>
      match event with
      | .consumer event =>
        if s.joined event then
          ((consumerSystem config).step s.consumer event).map fun c => { s with consumer := c }
        else none
      | .exits bytes fs server =>
        (ConsumerProcess.exitCode config s.consumer bytes fs server).map
          fun code => { s with exited := some code }
      | .heartbeat sent =>
        (ConsumerProcess.nextHeartbeat s.consumer.running sent s.heartbeat).map
          fun phase => { s with heartbeat := phase }

/-- A download is made for the first unit only. -/
theorem Receiver.pass_exits {config : ReceiverConfig} {r after : Receiver} {frame : List UInt8}
    {fs : FileSystem} {server : FileServer} {code : Nat}
    (passed : r.pass config frame fs server = (after, .exits code)) :
    r.fileReady = false ∧ code = 3 := by
  unfold Receiver.pass at passed
  split at passed
  next => cases passed
  next => cases passed
  next => cases passed
  next =>
    split at passed
    next => cases passed
    next fresh =>
      refine ⟨Bool.eq_false_iff.mpr fresh, ?_⟩
      dsimp only at passed
      split at passed
      next => cases passed
      next => cases passed
      next ended =>
        cases passed
        exact ConsumerFiles.receiveFirst_exit ended
      next => cases passed

inductive ProcessStep (config : ConsumerConfig) (s : ConsumerProcess) :
    ProcessEvent → ConsumerProcess → Prop where
  | consumer (event : ConsumerEvent) (c : Consumer) (alive : s.exited = none)
      (joined : s.joined event = true)
      (step : (consumerSystem config).step s.consumer event = some c) :
      ProcessStep config s (.consumer event) { s with consumer := c }
  | exits (bytes : List UInt8) (fs : FileSystem) (server : FileServer)
      (alive : s.exited = none) (first : s.consumer.receiver.fileReady = false) :
      ProcessStep config s (.exits bytes fs server) { s with exited := some 3 }
  | heartbeat (sent : Bool) (phase : HeartbeatPhase) (alive : s.exited = none)
      (next : ConsumerProcess.nextHeartbeat s.consumer.running sent s.heartbeat = some phase) :
      ProcessStep config s (.heartbeat sent) { s with heartbeat := phase }

variable {config : ConsumerConfig} {s t : ConsumerProcess} {event : ProcessEvent}

theorem process_steps (taken : (processSystem config).step s event = some t) :
    ProcessStep config s event t := by
  simp only [processSystem] at taken
  split at taken
  next => cases taken
  next alive =>
    cases event with
    | consumer event =>
      dsimp only at taken
      split at taken
      next joined =>
        obtain ⟨c, step, rfl⟩ := Option.map_eq_some_iff.mp taken
        exact .consumer event c alive joined step
      next => cases taken
    | exits bytes fs server =>
      obtain ⟨code, exits, rfl⟩ := Option.map_eq_some_iff.mp taken
      unfold ConsumerProcess.exitCode at exits
      split at exits
      next =>
        split at exits
        next passed =>
          cases exits
          obtain ⟨first, rfl⟩ := Receiver.pass_exits passed
          exact .exits bytes fs server alive first
        next => cases exits
      next => cases exits
    | heartbeat sent =>
      obtain ⟨phase, next, rfl⟩ := Option.map_eq_some_iff.mp taken
      exact .heartbeat sent phase alive next

theorem step_consumer {event : ConsumerEvent} {c : Consumer} (alive : s.exited = none)
    (joined : s.joined event = true)
    (step : (consumerSystem config).step s.consumer event = some c) :
    (processSystem config).step s (.consumer event) = some { s with consumer := c } := by
  simp only [processSystem, alive, joined, step]
  rfl

/-- A heartbeat thread that has not ended goes on. -/
theorem step_heartbeat (alive : s.exited = none) (present : s.heartbeat ≠ .left) :
    ∃ t, (processSystem config).step s (.heartbeat true) = some t := by
  simp only [processSystem, alive]
  cases phase : s.heartbeat with
  | left => exact absurd phase present
  | _ => exact ⟨_, rfl⟩

end PnC.Source
