import PnC.Source.CompletedIds
import PnC.Source.PoolSteps
import PnC.Source.Receiver

/-!
# Runs of the consumer

The receiver thread, the workers of the pool and Consumer::shutdown, from the start of
the receiver. The receiver takes its steps between the accesses to what it shares with
the workers: a frame, the duplicate check, the answer to a duplicate, the push into the
queue. A message is `sent` when send_result is called for it, which never throws: a send that
fails is only logged, and every send returns. A download that calls exit has no step here, nor
has the heartbeat thread; the process that has both is in ConsumerProcess. The lists `marks`,
`sent` and `failed` are kept for statements.
-/
namespace PnC.Source

open PnC.Library

structure ConsumerConfig where
  receiver : ReceiverConfig
  hasHandler : Bool
  /-- the number of threads that the pool decides on -/
  poolSize : UInt64

/-- What the callbacks of the pool capture of the consumer. -/
structure Captured where
  completed : CompletedIds
  /-- the calls of mark_completed, newest first -/
  marks : List String
  /-- oldest first -/
  sent : List ResultMessage

namespace Captured

def new : Captured := ⟨.empty, [], []⟩

/-- `if (result.status == "success") mark_completed(result.work_unit_id);` -/
def markSuccess (result : ResultMessage) (c : Captured) : Captured :=
  if result.status = "success" then
    { c with
      completed := c.completed.markCompleted result.workUnitId
      marks := result.workUnitId :: c.marks }
  else c

def sendResult (result : ResultMessage) (c : Captured) : Captured :=
  { c with sent := c.sent ++ [result] }

end Captured

/-- The callbacks that receiver_loop registers; what the idle callback requests is not
looked at. -/
def ConsumerConfig.pool (config : ConsumerConfig) : PoolConfig Captured where
  hasHandler := config.hasHandler
  resultCallback := some fun result => [Captured.markSuccess result, Captured.sendResult result]
  idleCallback := some fun _ => []

/-- Where the receiver thread stands: in front of the loop condition, in recv_frame, in
front of is_completed, in front of the answer to a duplicate, in the push, or behind the
loop. -/
inductive ReceiverPhase where
  | atLoop
  | receiving
  | checking (work : WorkUnitMessage)
  | answering (work : WorkUnitMessage)
  | submitting (work : WorkUnitMessage)
  | left

structure Consumer where
  running : Bool
  receiver : Receiver
  phase : ReceiverPhase
  /-- pool_ -/
  pool : Option (ThreadPool Captured)
  /-- what the loop of shutdown over the pending units has not come to -/
  failing : List WorkUnitMessage
  /-- the units that were returned as failures, oldest first -/
  failed : List WorkUnitMessage

inductive ConsumerEvent where
  | loopTest
  | frame (bytes : List UInt8) (fs : FileSystem) (server : FileServer)
  /-- recv_frame throws -/
  | recvFails
  | check
  | answer (timestamp : String)
  | push
  | pool (event : PoolEvent)
  /-- the first statement of shutdown -/
  | stop
  /-- the loop body of shutdown -/
  | fail (timestamp : String)

namespace Consumer

/-- The receiver thread has been started. -/
def start : Consumer := ⟨true, .new, .atLoop, none, [], []⟩

/-- The result by which shutdown returns a unit. -/
def shutdownFailure (consumerId timestamp : String) (work : WorkUnitMessage) : ResultMessage :=
  { work.failure "consumer shutdown" with consumerId := consumerId, timestamp := timestamp }

/-- Every handler begins its result with the id of the unit. -/
def echoes (pool : ThreadPool Captured) (i : Nat) : HandlerOutcome → Bool
  | .returned result =>
    match pool.workers[i]? with
    | some (.handling work) => result.workUnitId = work.workUnitId
    | _ => true
  | .threw _ => true

/-- Whether the step of the pool can be taken: the receiver submits by its own steps, and
shutdown joins the receiver before drain_pending and returns what is pending before it
shuts the pool down. -/
def allows (s : Consumer) (pool : ThreadPool Captured) : PoolEvent → Bool
  | .submit _ => false
  | .requestStop | .worker _ => true
  | .handlerReturns i outcome => echoes pool i outcome
  | .owner =>
    match s.phase with
    | .left => !s.running && s.failing.isEmpty
    | _ => false

/-- What is left for the loop of shutdown behind a step of the pool: drain_pending returns. -/
def returnedPending (before after : ThreadPool Captured) (failing : List WorkUnitMessage) :
    List WorkUnitMessage :=
  match before.owner, after.owner with
  | .collecting _, .drained pending => pending
  | _, _ => failing

def capture (pool : ThreadPool Captured) (effect : Captured → Captured) : ThreadPool Captured :=
  { pool with shared := { pool.shared with captured := effect pool.shared.captured } }

/-- The receiver thread. -/
def stepReceiver (config : ConsumerConfig) (s : Consumer) : ConsumerEvent → Option Consumer
  | .loopTest =>
    match s.phase with
    | .atLoop => some { s with phase := if s.running then .receiving else .left }
    | _ => none
  | .frame bytes fs server =>
    match s.phase with
    | .receiving =>
      match s.receiver.pass config.receiver bytes fs server with
      | (r, .continues) => some { s with receiver := r, phase := .atLoop }
      | (r, .breaks _) => some { s with receiver := r, phase := .left }
      | (_, .exits _) => none
      | (r, .first work) =>
        some { s with
          receiver := r
          phase := .submitting (r.pointTo work)
          pool := some (.start config.poolSize .new) }
      | (r, .check work) => some { s with receiver := r, phase := .checking work }
    | _ => none
  | .recvFails =>
    match s.phase with
    | .receiving => some { s with phase := .left }
    | _ => none
  | .check =>
    match s.phase, s.pool with
    | .checking work, some pool =>
      some { s with
        phase :=
          if pool.shared.captured.completed.isCompleted work.workUnitId then .answering work
          else .submitting (s.receiver.pointTo work) }
    | _, _ => none
  | .answer timestamp =>
    match s.phase, s.pool with
    | .answering work, some pool =>
      let note := Receiver.duplicateNote config.receiver.consumerId timestamp work
      some { s with phase := .atLoop, pool := some (capture pool (Captured.sendResult note)) }
    | _, _ => none
  | .push =>
    match s.phase, s.pool with
    | .submitting work, some pool =>
      ((poolSystem config.pool).step pool (.submit work)).map fun pool =>
        { s with phase := .atLoop, pool := some pool }
    | _, _ => none
  | _ => none

end Consumer

def consumerSystem (config : ConsumerConfig) : TransitionSystem Consumer ConsumerEvent where
  step s
    | .pool event =>
      match s.pool with
      | none => none
      | some pool =>
        if s.allows pool event then
          ((poolSystem config.pool).step pool event).map fun after =>
            { s with
              pool := some after
              failing := Consumer.returnedPending pool after s.failing }
        else none
    | .stop => some { s with running := false }
    | .fail timestamp =>
      match s.failing, s.pool with
      | work :: rest, some pool =>
        let failure := Consumer.shutdownFailure config.receiver.consumerId timestamp work
        some { s with
          pool := some (Consumer.capture pool (Captured.sendResult failure))
          failing := rest
          failed := s.failed ++ [work] }
      | _, _ => none
    | event => s.stepReceiver config event

end PnC.Source
