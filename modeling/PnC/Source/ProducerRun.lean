import Mathlib.Logic.Function.Basic
import PnC.Library.Transition
import PnC.Source.Producer

/-!
# Runs of the producer

The handle_client threads, the UDP thread and the monitor thread, one message or
one critical section at a time: a received frame is processed as one step, although the
source takes no lock for all of it (`threadSystem` cuts a work request at its accesses), the
teardown of handle_client is two, the monitor's scan and each of its evictions are
one each. Peers and the network are unconstrained. The traffic and the fields
`first` and `generated` of a connection are kept for statements only; no step
looks at them.
-/
namespace PnC.Source

open PnC.Library

inductive Endpoint where
  | tcp (connection : Nat)
  | udp (address : String) (port : Nat)
  deriving DecidableEq

inductive Traffic where
  | received (peer : Endpoint) (j : Json)
  /-- a version reply and its status field -/
  | answered (peer : Endpoint) (status : String)
  | workUnit (peer : Endpoint) (msg : WorkUnitMessage)

/-- Where a handle_client thread stands: in front of the first recv_frame, in front
of the loop condition, in front of the recv_frame of the loop, behind the try block,
between reclaim and unregister, returned; or inside a next_unit that does not end. -/
inductive Stage where
  | handshake | atLoop | receiving | leaving | reclaimed | returned | stuck
  deriving DecidableEq

structure Connection where
  stage : Stage
  consumerId : String
  isOpen : Bool
  first : Option Json
  generated : List String

structure World (σ : Type) where
  producer : Producer σ
  connections : Nat → Option Connection
  clock : Nat
  /-- the ids left of the monitor's last scan -/
  stale : List String
  /-- newest first -/
  traffic : List Traffic

/-- The answers of the operating system while one message is processed. -/
structure HandlerEnv extends DispatchEnv where
  replyOk : Bool

/-- Every send succeeds, and no timestamp is looked at. -/
def HandlerEnv.quiet : HandlerEnv := ⟨⟨fun _ => "", fun _ => true⟩, true⟩

inductive Event where
  | accept (connection : Nat)
  /-- recv_frame returned a text and it is JSON -/
  | frame (connection : Nat) (j : Json) (env : HandlerEnv)
  /-- recv_frame or the parser threw -/
  | broken (connection : Nat)
  | loopTest (connection : Nat)
  | reclaim (connection : Nat)
  | unregister (connection : Nat)
  | datagram (address : String) (port : Nat) (j : Json) (env : HandlerEnv)
  | tick
  | monitorScan
  | monitorEvict
  /-- dispatcher_loop or shutdown clears running_ -/
  | stop

/-- The connection whose handle_client makes the step. -/
def Event.connection : Event → Option Nat
  | .accept n | .frame n _ _ | .broken n | .loopTest n | .reclaim n | .unregister n => some n
  | .datagram .. | .tick | .monitorScan | .monitorEvict | .stop => none

/-- `j.value("msg_type", "")` -/
def msgType (j : Json) : Except Exception String := j.value "msg_type" "" Json.getString

/-- What the producer's configuration fixes for the whole run. -/
structure JobSetup where
  producerId : String
  testType : String
  sourceFile : String
  sourceHash : String
  permutation : String
  seed : Int

/-- A producer whose plugin has started up and whose tracker is empty. -/
def Producer.started {σ : Type} (job : JobSetup) (nextSeq : Int) (plugin : σ) : Producer σ where
  producerId := job.producerId
  testType := job.testType
  sourceFile := job.sourceFile
  sourceHash := job.sourceHash
  permutation := job.permutation
  seed := job.seed
  nextSeq := nextSeq
  totalDispatched := 0
  totalGenerated := 0
  tracker := .new
  plugin := plugin
  running := true
  foundPassword := none
  fileErrorMsg := none
  connectedConsumers := .empty

namespace World

variable {σ : Type}

/-- Before the first connection. -/
def listening (p : Producer σ) : World σ := ⟨p, fun _ => none, 0, [], []⟩

def setConnection (w : World σ) (n : Nat) (c : Connection) : World σ :=
  { w with connections := Function.update w.connections n (some c) }

/-- A text that is JSON has arrived. -/
def receive (w : World σ) (peer : Endpoint) (j : Json) : World σ :=
  { w with traffic := .received peer j :: w.traffic }

/-- A version reply goes out. -/
def answer (w : World σ) (peer : Endpoint) (status : String) : World σ :=
  { w with traffic := .answered peer status :: w.traffic }

def setProducer (w : World σ) (p : Producer σ) : World σ := { w with producer := p }

/-- The handshake of handle_client, on a first frame that is JSON. -/
def handshakeFrame (w : World σ) (n : Nat) (c : Connection) (j : Json) (env : HandlerEnv) :
    World σ :=
  let w := w.receive (.tcp n) j
  let c := { c with first := some j }
  match msgType j with
  | .error _ => w.setConnection n { c with stage := .leaving }
  | .ok "version" =>
    match VersionMessage.fromJson j with
    | .error _ => w.setConnection n { c with stage := .leaving }
    | .ok ver =>
      if env.replyOk then
        if ver.version ≠ pcVersion then
          (w.answer (.tcp n) "mismatch").setConnection n
            { c with stage := .returned, isOpen := false }
        else
          ((w.answer (.tcp n) "ok").setProducer
            (w.producer.registerConsumer ver.consumerId n w.clock)).setConnection n
            { c with stage := .atLoop, consumerId := ver.consumerId }
      else w.setConnection n { c with stage := .leaving }
  | .ok _ => w.setConnection n { c with stage := .atLoop }

/-- A dispatch on behalf of `peer`: the new producer, and the units on the wire. -/
def afterDispatch (w : World σ) (peer : Endpoint) (d : Dispatch σ) : World σ :=
  { w with
    producer := d.producer
    traffic := (d.sent.map (Traffic.workUnit peer)).reverse ++ w.traffic }

/-- Where the handler stands after a dispatch loop. -/
def stageAfter : DispatchEnd → Stage
  | .returned | .sendError => .atLoop
  | .threw _ => .leaving
  | .stuck _ => .stuck

/-- The id of the connection after a result or a heartbeat: one it has stays. -/
def adoptedId (c : Connection) (consumerId : String) : String :=
  if c.consumerId = "" then consumerId else c.consumerId

/-- The producer after the connection has registered under an id it has taken over. -/
def adopt (w : World σ) (n : Nat) (c : Connection) (consumerId : String) : Producer σ :=
  if c.consumerId = "" ∧ consumerId ≠ "" then w.producer.registerConsumer consumerId n w.clock
  else w.producer

/-- The work_request branch of the loop: the id is taken over whatever it is. -/
def requestFrame (plugin : TestPlugin σ) (w : World σ) (n : Nat) (c : Connection)
    (req : WorkRequestMessage) (env : HandlerEnv) : World σ :=
  let p :=
    if c.consumerId = "" then w.producer.registerConsumer req.consumerId n w.clock else w.producer
  let p := p.updateConsumerActivity req.consumerId w.clock
  let d := p.handleWorkRequest plugin env.toDispatchEnv req
  (w.afterDispatch (.tcp n) d).setConnection n
    { c with
      stage := stageAfter d.ended
      consumerId := req.consumerId
      generated := d.generated ++ c.generated }

def resultFrame (w : World σ) (n : Nat) (c : Connection) (result : ResultMessage) : World σ :=
  let consumerId := adoptedId c result.consumerId
  let p := (w.adopt n c result.consumerId).updateConsumerActivity consumerId w.clock
  (w.setProducer (p.handleResult result)).setConnection n
    { c with stage := .atLoop, consumerId := consumerId }

def heartbeatFrame (w : World σ) (n : Nat) (c : Connection) (hb : HeartbeatMessage) : World σ :=
  let consumerId := adoptedId c hb.consumerId
  let p := (w.adopt n c hb.consumerId).updateConsumerActivity consumerId w.clock
  (w.setProducer p).setConnection n { c with stage := .atLoop, consumerId := consumerId }

/-- The body of handle_client's loop, on a frame that is JSON. -/
def loopFrame (plugin : TestPlugin σ) (w : World σ) (n : Nat) (c : Connection) (j : Json)
    (env : HandlerEnv) : World σ :=
  let w := w.receive (.tcp n) j
  match msgType j with
  | .error _ => w.setConnection n { c with stage := .leaving }
  | .ok "work_request" =>
    match WorkRequestMessage.fromJson j with
    | .error _ => w.setConnection n { c with stage := .leaving }
    | .ok req => w.requestFrame plugin n c req env
  | .ok "result" =>
    match ResultMessage.fromJson j with
    | .error _ => w.setConnection n { c with stage := .leaving }
    | .ok result => w.resultFrame n c result
  | .ok "heartbeat" =>
    match HeartbeatMessage.fromJson j with
    | .error _ => w.setConnection n { c with stage := .leaving }
    | .ok hb => w.heartbeatFrame n c hb
  | .ok _ => w.setConnection n { c with stage := .atLoop }

/-- handle_udp_message; an exception is caught by udp_loop. A next_unit that does not
end leaves the thread there; datagrams after it are still given a step. -/
def handleUdpMessage (plugin : TestPlugin σ) (w : World σ) (address : String) (port : Nat)
    (j : Json) (env : HandlerEnv) : World σ :=
  let peer := Endpoint.udp address port
  let w := w.receive peer j
  match msgType j with
  | .error _ => w
  | .ok "version" =>
    match VersionMessage.fromJson j with
    | .error _ => w
    | .ok ver =>
      if ver.version ≠ pcVersion then w.answer peer "mismatch"
      else
        (w.answer peer "ok").setProducer
          (w.producer.registerConsumerUdp ver.consumerId address port w.clock)
  | .ok "work_request" =>
    match WorkRequestMessage.fromJson j with
    | .error _ => w
    | .ok req =>
      let p := w.producer.updateConsumerActivity req.consumerId w.clock
      w.afterDispatch peer (p.handleUdpWorkRequest plugin env.timestamp req)
  | .ok "result" =>
    match ResultMessage.fromJson j with
    | .error _ => w
    | .ok result =>
      w.setProducer
        ((w.producer.updateConsumerActivity result.consumerId w.clock).handleResult result)
  | .ok "heartbeat" =>
    match HeartbeatMessage.fromJson j with
    | .error _ => w
    | .ok hb => w.setProducer (w.producer.updateConsumerActivity hb.consumerId w.clock)
  | .ok _ => w

/-- The first loop of monitor_connections. -/
def staleIds (w : World σ) : List String :=
  (w.producer.connectedConsumers.items.filter
    fun info => decide (info.lastActivity + 30 ≤ w.clock)).map (·.consumerId)

/-- One round of the second loop of monitor_connections. No step is given where the
source has no defined behaviour: an entry that is gone is erased through end(), and a
socket whose handle_client has returned is closed through a dangling pointer. -/
def evict (w : World σ) (consumerId : String) : Option (World σ) :=
  match w.producer.connectedConsumers.find consumerId with
  | none => none
  | some info =>
    let p := (w.producer.reclaimConsumer consumerId).unregisterConsumer consumerId
    match info.socket with
    | none => some (w.setProducer p)
    | some n =>
      match w.connections n with
      | none => none
      | some c =>
        if c.stage = .returned then none
        else some ((w.setProducer p).setConnection n { c with isOpen := false })

end World

/-- The producer among arbitrary peers. -/
def producerSystem {σ : Type} (plugin : TestPlugin σ) : TransitionSystem (World σ) Event where
  step w
    | .accept n =>
      match w.connections n with
      | some _ => none
      | none => some (w.setConnection n ⟨.handshake, "", true, none, []⟩)
    | .frame n j env =>
      match w.connections n with
      | none => none
      | some c =>
        match c.stage with
        | .handshake => some (w.handshakeFrame n c j env)
        | .receiving => some (w.loopFrame plugin n c j env)
        | _ => none
    | .broken n =>
      match w.connections n with
      | none => none
      | some c =>
        if c.stage = .handshake ∨ c.stage = .receiving then
          some (w.setConnection n { c with stage := .leaving })
        else none
    | .loopTest n =>
      match w.connections n with
      | none => none
      | some c =>
        if c.stage = .atLoop then
          some (w.setConnection n
            { c with stage := if w.producer.running && c.isOpen then .receiving else .leaving })
        else none
    | .reclaim n =>
      match w.connections n with
      | none => none
      | some c =>
        if c.stage = .leaving then
          let p :=
            if c.consumerId = "" then w.producer else w.producer.reclaimConsumer c.consumerId
          some ((w.setProducer p).setConnection n { c with stage := .reclaimed })
        else none
    | .unregister n =>
      match w.connections n with
      | none => none
      | some c =>
        if c.stage = .reclaimed then
          let p :=
            if c.consumerId = "" then w.producer else w.producer.unregisterConsumer c.consumerId
          some ((w.setProducer p).setConnection n { c with stage := .returned, isOpen := false })
        else none
    | .datagram address port j env => some (w.handleUdpMessage plugin address port j env)
    | .tick => some { w with clock := w.clock + 1 }
    | .monitorScan => if w.stale = [] then some { w with stale := w.staleIds } else none
    | .monitorEvict =>
      match w.stale with
      | [] => none
      | consumerId :: rest => { w with stale := rest }.evict consumerId
    | .stop => some (w.setProducer { w.producer with running := false })

/-- The producer under --transport udp, which accepts no connection. -/
def udpSystem {σ : Type} (plugin : TestPlugin σ) : TransitionSystem (World σ) Event where
  step w event :=
    match event.connection with
    | some _ => none
    | none => (producerSystem plugin).step w event

end PnC.Source
