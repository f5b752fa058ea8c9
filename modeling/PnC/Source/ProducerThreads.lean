import PnC.Source.DispatchInterleaving
import PnC.Source.ProducerRun
import PnC.Source.Receiver

/-!
# The threads of the producer

What `producerSystem` takes as one step, a work request that is served, is cut here at the
accesses of `dispatchSystem`; everything else that a thread does with a message is as it is
there. Beside the client handlers there are the UDP thread with its own flag, the threads
that answer file requests, and the main thread from its accept loop to the end of the
destructor. handle_file_transfer writes no member, so that only its place is kept.
-/
namespace PnC.Source

open PnC.Library

inductive ThreadId where
  | client (connection : Nat)
  | udp
  deriving DecidableEq

/-- A thread inside handle_work_request or handle_udp_work_request. -/
structure Serving where
  peer : Endpoint
  handler : Handler

/-- Where udp_loop stands: in front of its condition, in front of recv_frame_udp, or behind
the loop. -/
inductive UdpStage where
  | atLoop | receiving | returned
  deriving DecidableEq

/-- Where handle_file_transfer stands: in front of its recv_data, behind it, returned. -/
inductive TransferStage where
  | receiving | answering | returned
  deriving DecidableEq

/-- Where the main thread stands: in the accept loop, in shutdown behind the flags, behind
the joins, behind the snapshot of write_final_checkpoint, behind the destructor. -/
inductive MainPhase where
  | accepting | stopping | joined | saved | destroyed
  deriving DecidableEq

structure Threads (σ : Type) where
  transport : Transport
  world : World σ
  serving : ThreadId → Option Serving
  udp : UdpStage
  /-- udp_running_ -/
  udpRunning : Bool
  /-- SignalHandler::is_stop_requested() -/
  stopRequested : Bool
  /-- whether file_transfer_loop still accepts -/
  fileLoop : Bool
  transfers : Nat → Option TransferStage
  main : MainPhase

/-- The accesses of one iteration of the dispatch loop. -/
inductive Access where
  | readSeq (timestamp : String)
  | nextUnit | addPending | markSent | incrementSeq
  | send (ok : Bool)
  deriving DecidableEq

/-- The access of a handler that is looked at alone. -/
def Access.event : Access → DispatchEvent
  | .readSeq timestamp => .readSeq 0 timestamp
  | .nextUnit => .nextUnit 0
  | .addPending => .addPending 0
  | .markSent => .markSent 0
  | .incrementSeq => .incrementSeq 0
  | .send ok => .send 0 ok

inductive ThreadEvent where
  /-- a step that is not cut -/
  | whole (event : Event)
  /-- a work request has arrived -/
  | request (connection : Nat) (j : Json)
  | requestUdp (address : String) (port : Nat) (j : Json)
  | access (thread : ThreadId) (access : Access)
  /-- out of handle_work_request -/
  | leave (thread : ThreadId)
  /-- on and on inside a next_unit that does not end -/
  | spin (thread : ThreadId)
  | udpLoopTest
  /-- a receive that timed out or threw, or no JSON -/
  | udpBroken
  | acceptTransfer (k : Nat)
  | transfer (k : Nat)
  | fileLoopEnds
  | signal
  | shutdown
  | join
  | save
  | destroy

def isRequest (j : Json) : Bool :=
  match msgType j with
  | .ok "work_request" => true
  | _ => false

namespace Threads

variable {σ : Type}

/-- run has started its threads. -/
def started (transport : Transport) (p : Producer σ) : Threads σ where
  transport := transport
  world := .listening p
  serving _ := none
  udp := if transport = .udp then .atLoop else .returned
  udpRunning := decide (transport = .udp)
  stopRequested := false
  fileLoop := true
  transfers _ := none
  main := .accepting

def isReceiving (s : Threads σ) (n : Nat) : Bool :=
  match s.world.connections n with
  | some c => decide (c.stage = .receiving)
  | none => false

/-- Whether the thread that makes the step can be there. -/
def allows (s : Threads σ) : Event → Bool
  | .accept _ => decide (s.transport = .tcp ∧ s.main = .accepting)
  | .frame n j _ => (s.serving (.client n)).isNone && !(s.isReceiving n && isRequest j)
  | .broken n | .loopTest n | .reclaim n | .unregister n => (s.serving (.client n)).isNone
  | .datagram _ _ j _ =>
    decide (s.udp = .receiving) && (s.serving .udp).isNone && !isRequest j
  | .monitorScan | .monitorEvict => decide (s.main = .accepting ∨ s.main = .stopping)
  | .tick | .stop => true

/-- udp_loop goes round after each datagram. -/
def afterWhole (s : Threads σ) (w : World σ) : Event → Threads σ
  | .datagram .. => { s with world := w, udp := .atLoop }
  | _ => { s with world := w }

def setServing (s : Threads σ) (thread : ThreadId) (serving : Option Serving) : Threads σ :=
  { s with serving := Function.update s.serving thread serving }

/-- The thread enters its dispatch loop. -/
def serve (s : Threads σ) (thread : ThreadId) (peer : Endpoint) (req : WorkRequestMessage) :
    Threads σ :=
  s.setServing thread
    (some ⟨peer, ⟨req.consumerId, req.threadsAvailable.toNat, .between⟩⟩)

/-- The work_request branch of handle_client, up to handle_work_request. -/
def requestFrame (s : Threads σ) (n : Nat) (c : Connection) (j : Json) : Threads σ :=
  let w := s.world.receive (.tcp n) j
  match WorkRequestMessage.fromJson j with
  | .error _ => { s with world := w.setConnection n { c with stage := .leaving } }
  | .ok req =>
    let p :=
      if c.consumerId = "" then w.producer.registerConsumer req.consumerId n w.clock
      else w.producer
    let p := p.updateConsumerActivity req.consumerId w.clock
    let w := (w.setProducer p).setConnection n { c with consumerId := req.consumerId }
    { s with world := w }.serve (.client n) (.tcp n) req

/-- The work_request branch of handle_udp_message, up to handle_udp_work_request. -/
def requestDatagram (s : Threads σ) (address : String) (port : Nat) (j : Json) : Threads σ :=
  let w := s.world.receive (.udp address port) j
  match WorkRequestMessage.fromJson j with
  | .error _ => { s with world := w, udp := .atLoop }
  | .ok req =>
    let w := w.setProducer (w.producer.updateConsumerActivity req.consumerId w.clock)
    { s with world := w }.serve .udp (.udp address port) req

/-- The dispatch loop of one thread, the other handlers left out. -/
def alone (s : Threads σ) (serving : Serving) : Dispatching σ :=
  ⟨s.world.producer, fun _ => serving.handler, [], []⟩

/-- What the access has changed. -/
def afterAccess (s : Threads σ) (thread : ThreadId) (peer : Endpoint) (d : Dispatching σ) :
    Threads σ :=
  { s with
    world := { s.world with
      producer := d.producer
      traffic := d.sent.map (Traffic.workUnit peer) ++ s.world.traffic } }.setServing
    thread (some ⟨peer, d.handlers 0⟩)

/-- Back in the loop of handle_client or of udp_loop, which catches what next_unit throws. -/
def leave (s : Threads σ) (thread : ThreadId) (stage : Stage) : Threads σ :=
  let s := s.setServing thread none
  match thread with
  | .udp => { s with udp := .atLoop }
  | .client n =>
    match s.world.connections n with
    | none => s
    | some c => { s with world := s.world.setConnection n { c with stage := stage } }

end Threads

/-- The whole producer. A call of shutdown that comes second returns at once, so that the
one that does the work can stand for both. -/
def threadSystem {σ : Type} (plugin : TestPlugin σ) : TransitionSystem (Threads σ) ThreadEvent where
  step s
    | .whole event =>
      if s.allows event then
        ((producerSystem plugin).step s.world event).map fun w => s.afterWhole w event
      else none
    | .request n j =>
      match s.world.connections n, s.serving (.client n) with
      | some c, none =>
        if c.stage = .receiving ∧ isRequest j then some (s.requestFrame n c j) else none
      | _, _ => none
    | .requestUdp address port j =>
      match s.udp, s.serving .udp with
      | .receiving, none => if isRequest j then some (s.requestDatagram address port j) else none
      | _, _ => none
    | .access thread access =>
      -- send_frame_udp never throws
      if thread = .udp ∧ access = .send false then none
      else
        match s.serving thread with
        | none => none
        | some serving =>
          ((dispatchSystem plugin).step (s.alone serving) access.event).map
            fun d => s.afterAccess thread serving.peer d
    | .leave thread =>
      match s.serving thread with
      | some ⟨_, ⟨_, 0, .between⟩⟩ => some (s.leave thread .atLoop)
      | some ⟨_, ⟨_, _, .left⟩⟩ => some (s.leave thread .leaving)
      | _ => none
    | .spin thread =>
      match s.serving thread with
      | some ⟨_, ⟨_, _, .stuck⟩⟩ => some s
      | _ => none
    | .udpLoopTest =>
      if s.udp = .atLoop then
        some { s with udp := if s.udpRunning && !s.stopRequested then .receiving else .returned }
      else none
    | .udpBroken =>
      match s.udp, s.serving .udp with
      | .receiving, none => some { s with udp := .atLoop }
      | _, _ => none
    | .acceptTransfer k =>
      match s.fileLoop, s.transfers k with
      | true, none => some { s with transfers := Function.update s.transfers k (some .receiving) }
      | _, _ => none
    | .transfer k =>
      match s.transfers k with
      | some .receiving =>
        some { s with transfers := Function.update s.transfers k (some .answering) }
      | some .answering =>
        some { s with transfers := Function.update s.transfers k (some .returned) }
      | _ => none
    | .fileLoopEnds =>
      if s.fileLoop && (s.stopRequested || decide (s.main ≠ .accepting)) then
        some { s with fileLoop := false }
      else none
    | .signal => some { s with stopRequested := true }
    | .shutdown =>
      if s.main = .accepting then
        some { s with
          world := s.world.setProducer { s.world.producer with running := false }
          udpRunning := false
          main := .stopping }
      else none
    | .join =>
      if s.main = .stopping ∧ s.udp = .returned ∧ s.fileLoop = false ∧ s.world.stale = [] then
        some { s with main := .joined }
      else none
    | .save => if s.main = .joined then some { s with main := .saved } else none
    | .destroy => if s.main = .saved then some { s with main := .destroyed } else none

end PnC.Source
