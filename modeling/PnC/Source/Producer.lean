import PnC.Source.Checkpoint
import PnC.Source.Message
import PnC.Source.TestPlugin

/-!
# The producer

The members of class Producer that its message handlers read and write, and the
handlers themselves. A connection's socket is its number; what the operating
system answers (whether a send succeeds, the time of day) is an argument. The
counters next_seq_, total_generated_ and total_dispatched_ are int64_t in the
source. Here they are integers that stay below 2^63: beyond that the source has
no defined behaviour.
-/
namespace PnC.Source

open PnC.Library

/-- An entry of connected_consumers_ with its key. -/
structure ConsumerInfo where
  consumerId : String
  socket : Option Nat
  address : String
  port : Nat
  lastActivity : Nat
  registeredAt : Nat
  deriving DecidableEq

structure Producer (σ : Type) where
  producerId : String
  testType : String
  sourceFile : String
  sourceHash : String
  /-- config_.permutation and config_.seed -/
  permutation : String
  seed : Int
  nextSeq : Int
  totalDispatched : Int
  totalGenerated : Int
  tracker : WorkTracker
  plugin : σ
  running : Bool
  /-- the globals that pwd_set_found and pwd_set_file_error write -/
  foundPassword : Option String
  fileErrorMsg : Option String
  connectedConsumers : KeyedStore String ConsumerInfo ConsumerInfo.consumerId

/-- The counters are still in the range of their type. -/
structure Producer.CountersFit {σ : Type} (p : Producer σ) : Prop where
  nextSeq : FitsInt64 p.nextSeq
  totalDispatched : FitsInt64 p.totalDispatched
  totalGenerated : FitsInt64 p.totalGenerated

instance {σ : Type} (p : Producer σ) : Decidable p.CountersFit :=
  decidable_of_iff (FitsInt64 p.nextSeq ∧ FitsInt64 p.totalDispatched ∧ FitsInt64 p.totalGenerated)
    ⟨fun ⟨nextSeq, totalDispatched, totalGenerated⟩ => ⟨nextSeq, totalDispatched, totalGenerated⟩,
      fun fits => ⟨fits.nextSeq, fits.totalDispatched, fits.totalGenerated⟩⟩

/-- What the operating system answers while one work request is served. -/
structure DispatchEnv where
  timestamp : Nat → String
  sendOk : Nat → Bool

/-- How a dispatch loop ended: by its own condition or break, at a failed send, by an
exception out of next_unit, or not at all. -/
inductive DispatchEnd where
  | returned
  | sendError
  | threw (what : Exception)
  | stuck (fault : Fault)
  deriving DecidableEq

structure Dispatch (σ : Type) where
  producer : Producer σ
  /-- the ids under which units were generated -/
  generated : List String
  /-- the messages that were sent -/
  sent : List WorkUnitMessage
  ended : DispatchEnd

namespace Producer

variable {σ : Type}

/-- The work unit id for a value of next_seq_. -/
def unitId (p : Producer σ) (seq : Int) : String := p.producerId ++ "-" ++ toString seq

/-- The message that the loop body hands to next_unit, with the job filled in. -/
def unitMessage (p : Producer σ) (timestamp : String) (job : Json) : WorkUnitMessage where
  testType := p.testType
  sourceFile := p.sourceFile
  permutation := ""
  permutationSeed := none
  workUnitId := p.unitId p.nextSeq
  seq := p.nextSeq
  timestamp := timestamp
  producerId := p.producerId
  job := job
  sourceHash := if p.sourceHash = "" then none else some p.sourceHash

def pendingEntry (msg : WorkUnitMessage) : WorkUnitEntry where
  workUnitId := msg.workUnitId
  seq := msg.seq
  job := msg.job
  status := .pending
  consumerId := ""
  sentAt := ""
  completedAt := ""

@[simp] theorem workUnitId_unitMessage (p : Producer σ) (timestamp : String) (job : Json) :
    (p.unitMessage timestamp job).workUnitId = p.unitId p.nextSeq := rfl

@[simp] theorem workUnitId_pendingEntry (msg : WorkUnitMessage) :
    (pendingEntry msg).workUnitId = msg.workUnitId := rfl

/-- The loop body between a next_unit that returned true and the send. -/
def recordUnit (p : Producer σ) (state : σ) (msg : WorkUnitMessage) (consumerId : String) :
    Producer σ :=
  { p with
    plugin := state
    totalGenerated := p.totalGenerated + 1
    tracker := (p.tracker.addPending (pendingEntry msg)).markSent msg.workUnitId consumerId
    totalDispatched := p.totalDispatched + 1
    nextSeq := p.nextSeq + 1 }

/-- The loop of handle_work_request, with `remaining` iterations to go and `i` the
loop variable. -/
def dispatchLoop (plugin : TestPlugin σ) (env : DispatchEnv) (consumerId : String) :
    (remaining : Nat) → (i : Nat) → Producer σ → Dispatch σ
  | 0, _, p => ⟨p, [], [], .returned⟩
  | remaining + 1, i, p =>
    match plugin.nextUnit p.plugin with
    | .exhausted state => ⟨{ p with plugin := state }, [], [], .returned⟩
    | .threw state what => ⟨{ p with plugin := state }, [], [], .threw what⟩
    | .stuck fault => ⟨p, [], [], .stuck fault⟩
    | .unit state job =>
      let msg := p.unitMessage (env.timestamp i) job
      let p := p.recordUnit state msg consumerId
      if env.sendOk i then
        let rest := dispatchLoop plugin env consumerId remaining (i + 1) p
        { rest with generated := msg.workUnitId :: rest.generated, sent := msg :: rest.sent }
      else ⟨p, [msg.workUnitId], [], .sendError⟩

/-- handle_work_request; a count below one dispatches nothing. -/
def handleWorkRequest (plugin : TestPlugin σ) (env : DispatchEnv) (p : Producer σ)
    (req : WorkRequestMessage) : Dispatch σ :=
  dispatchLoop plugin env req.consumerId req.threadsAvailable.toNat 0 p

/-- handle_udp_work_request: the same loop, whose send never throws because
send_frame_udp ignores what send_to returns. -/
def handleUdpWorkRequest (plugin : TestPlugin σ) (timestamp : Nat → String) (p : Producer σ)
    (req : WorkRequestMessage) : Dispatch σ :=
  handleWorkRequest plugin ⟨timestamp, fun _ => true⟩ p req

/-- handle_result -/
def handleResult (p : Producer σ) (result : ResultMessage) : Producer σ :=
  if result.status = "success" then
    let p := { p with tracker := p.tracker.markCompleted result.workUnitId }
    match result.foundPassword with
    | some password => { p with foundPassword := some password, running := false }
    | none => p
  else
    let p := { p with tracker := p.tracker.markFailed result.workUnitId }
    match result.fileError with
    | some error => { p with fileErrorMsg := some error, running := false }
    | none => p

/-- register_consumer -/
def registerConsumer (p : Producer σ) (consumerId : String) (socket : Nat) (now : Nat) :
    Producer σ :=
  match p.connectedConsumers.find consumerId with
  | none =>
    { p with
      connectedConsumers := p.connectedConsumers.put ⟨consumerId, some socket, "", 0, now, now⟩ }
  | some _ =>
    { p with
      connectedConsumers := p.connectedConsumers.modify consumerId
        (fun info => { info with socket := some socket, lastActivity := now }) (fun _ => rfl) }

/-- register_consumer_udp -/
def registerConsumerUdp (p : Producer σ) (consumerId address : String) (port : Nat) (now : Nat) :
    Producer σ :=
  match p.connectedConsumers.find consumerId with
  | none =>
    { p with
      connectedConsumers := p.connectedConsumers.put ⟨consumerId, none, address, port, now, now⟩ }
  | some _ =>
    { p with
      connectedConsumers := p.connectedConsumers.modify consumerId
        (fun info => { info with address := address, port := port, lastActivity := now })
        (fun _ => rfl) }

/-- Registration writes connected_consumers_ only. -/
theorem registerConsumer_eq (p : Producer σ) (consumerId : String) (socket now : Nat) :
    p.registerConsumer consumerId socket now =
      { p with
        connectedConsumers := (p.registerConsumer consumerId socket now).connectedConsumers } := by
  unfold registerConsumer
  split <;> rfl

theorem registerConsumerUdp_eq (p : Producer σ) (consumerId address : String) (port now : Nat) :
    p.registerConsumerUdp consumerId address port now =
      { p with
        connectedConsumers :=
          (p.registerConsumerUdp consumerId address port now).connectedConsumers } := by
  unfold registerConsumerUdp
  split <;> rfl

theorem find_registerConsumer (p : Producer σ) (consumerId : String) (socket now : Nat)
    (queried : String) :
    (p.registerConsumer consumerId socket now).connectedConsumers.find queried =
      if queried = consumerId then
        some { (p.connectedConsumers.find consumerId).getD
            ⟨consumerId, some socket, "", 0, now, now⟩ with
          socket := some socket, lastActivity := now }
      else p.connectedConsumers.find queried := by
  unfold registerConsumer
  split
  next absent =>
    rw [absent]
    exact KeyedStore.find_put ..
  next info present =>
    simp only [KeyedStore.find_modify, present, Option.map_some, Option.getD_some]

theorem find_registerConsumerUdp (p : Producer σ) (consumerId address : String) (port now : Nat)
    (queried : String) :
    (p.registerConsumerUdp consumerId address port now).connectedConsumers.find queried =
      if queried = consumerId then
        some { (p.connectedConsumers.find consumerId).getD
            ⟨consumerId, none, address, port, now, now⟩ with
          address := address, port := port, lastActivity := now }
      else p.connectedConsumers.find queried := by
  unfold registerConsumerUdp
  split
  next absent =>
    rw [absent]
    exact KeyedStore.find_put ..
  next info present =>
    simp only [KeyedStore.find_modify, present, Option.map_some, Option.getD_some]

/-- unregister_consumer -/
def unregisterConsumer (p : Producer σ) (consumerId : String) : Producer σ :=
  { p with connectedConsumers := p.connectedConsumers.erase consumerId }

/-- update_consumer_activity -/
def updateConsumerActivity (p : Producer σ) (consumerId : String) (now : Nat) : Producer σ :=
  { p with
    connectedConsumers := p.connectedConsumers.modify consumerId
      (fun info => { info with lastActivity := now }) (fun _ => rfl) }

/-- The reclaim at the end of handle_client and in monitor_connections. -/
def reclaimConsumer (p : Producer σ) (consumerId : String) : Producer σ :=
  { p with tracker := (p.tracker.getFailedForConsumer consumerId).1 }

/-- What checkpoint_loop and write_final_checkpoint save. -/
def checkpointState (plugin : TestPlugin σ) (p : Producer σ) (now : String) : CheckpointState :=
  { p.tracker.toCheckpoint p.totalGenerated with
    producerId := p.producerId
    sourceFile := p.sourceFile
    permutation := p.permutation
    permutationSeed := p.seed
    checkpointTimestamp := now
    pluginState := some (plugin.checkpoint p.plugin) }

end Producer

end PnC.Source
