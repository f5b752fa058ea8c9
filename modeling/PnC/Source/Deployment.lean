import PnC.Source.ConsumerResults
import PnC.Source.ProducerSteps

/-!
# A producer and its consumers

The producer of `producerSystem` with nothing but consumers of `consumerSystem` at the
other end of its TCP connections. A connection delivers whole frames, in the order in which
they were sent, in each direction; it can break at any moment. The frames on their way are
those that one side has sent and the other has not taken: `taken` and `delivered` count
what has been. A consumer that connects again does so on another connection. What a
consumer sends beside its results is a version message, work requests with any number of
threads at any time, and heartbeats.

Each message is one step here, as in `producerSystem`: no other thread of the producer is in
handle_work_request, or in the next_unit of the plugin, while a work request is served. The
source takes no lock there. Where two requests overlap, as `threadSystem` lets them, an id can
go to two connections and the plugin can skip a job.

A consumer whose first download calls exit takes that unit no more: its connection is then
never quiet.
-/
namespace PnC.Source

open PnC.Library

/-- A consumer that is told to use TCP. -/
structure ConsumerProgram where
  version : String
  config : ConsumerConfig
  overTcp : config.receiver.transport = .tcp

namespace ConsumerProgram

variable (program : ConsumerProgram)

def consumerId : String := program.config.receiver.consumerId

/-- nlohmann::json, the same on both sides -/
def json : JsonText := program.config.receiver.json

end ConsumerProgram

structure Link where
  consumer : Consumer
  /-- how many of the units sent over the connection the receiver has taken -/
  taken : Nat
  /-- how many of the consumer's results handle_client has taken -/
  delivered : Nat

structure Deployment (σ : Type) where
  world : World σ
  /-- the consumers that have connected, by their connection -/
  links : Nat → Option Link

/-- The results that the consumer has sent, oldest first. -/
def Consumer.results (s : Consumer) : List ResultMessage :=
  match s.pool with
  | none => []
  | some pool => pool.shared.captured.sent

/-- The unit of a frame that was sent over the connection. -/
def Traffic.unitFor (n : Nat) : Traffic → Option WorkUnitMessage
  | .workUnit (.tcp m) msg => if m = n then some msg else none
  | _ => none

/-- The units that have been sent over the connection, oldest first. -/
def World.sentTo {σ : Type} (w : World σ) (n : Nat) : List WorkUnitMessage :=
  w.traffic.reverse.filterMap (Traffic.unitFor n)

/-- The status field of the version reply that has just been sent over the connection. -/
def World.replied {σ : Type} (w : World σ) (n : Nat) : Option String :=
  match w.traffic with
  | .answered (.tcp m) status :: _ => if m = n then some status else none
  | _ => none

inductive DeploymentEvent where
  /-- connect_to_producer up to the version reply -/
  | connect (n : Nat) (env : HandlerEnv)
  /-- send_work_request -/
  | request (n : Nat) (threadsAvailable : Int) (timestamp : String) (env : HandlerEnv)
  /-- heartbeat_loop -/
  | heartbeat (n : Nat) (timestamp : String)
  /-- handle_client takes the next result -/
  | deliver (n : Nat)
  /-- receiver_loop takes the next unit -/
  | arrive (n : Nat) (fs : FileSystem) (server : FileServer)
  /-- any other step of a consumer -/
  | consumer (n : Nat) (event : ConsumerEvent)
  /-- any other step of the producer -/
  | producer (event : Event)

def ConsumerEvent.isFrame : ConsumerEvent → Bool
  | .frame .. => true
  | _ => false

/-- The events that bring something from a peer. -/
def Event.fromPeer : Event → Bool
  | .frame .. | .datagram .. => true
  | _ => false

namespace Deployment

variable {σ : Type}

/-- No connection has been accepted. -/
def listening (p : Producer σ) : Deployment σ := ⟨.listening p, fun _ => none⟩

def setLink (s : Deployment σ) (n : Nat) (link : Link) : Deployment σ :=
  { s with links := Function.update s.links n (some link) }

@[simp] theorem links_setLink_self (s : Deployment σ) (n : Nat) (link : Link) :
    (s.setLink n link).links n = some link :=
  Function.update_self ..

theorem links_setLink_of_ne (s : Deployment σ) {n m : Nat} (link : Link) (other : m ≠ n) :
    (s.setLink n link).links m = s.links m :=
  Function.update_of_ne other ..

/-- The producer receives a message of the consumer. -/
def send (plugin : TestPlugin σ) (s : Deployment σ) (n : Nat) (j : Json) (env : HandlerEnv) :
    Option (Deployment σ) :=
  ((producerSystem plugin).step s.world (.frame n j env)).map fun world => { s with world := world }

end Deployment

/-- `fleet n` is the consumer that makes connection `n`. A consumer whose version is refused
or that gets no reply goes no further on this connection. -/
def deploymentSystem {σ : Type} (plugin : TestPlugin σ) (fleet : Nat → ConsumerProgram) :
    TransitionSystem (Deployment σ) DeploymentEvent where
  step s
    | .connect n env =>
      match s.links n with
      | some _ => none
      | none =>
        (s.send plugin n (VersionMessage.mk (fleet n).version (fleet n).consumerId).toJson env).map
          fun t =>
            if t.world.replied n = some "ok" then t.setLink n ⟨.start, 0, 0⟩ else t
    | .request n threadsAvailable timestamp env =>
      match s.links n with
      | none => none
      | some _ =>
        s.send plugin n
          (WorkRequestMessage.mk (fleet n).consumerId threadsAvailable timestamp).toJson env
    | .heartbeat n timestamp =>
      match s.links n with
      | none => none
      | some _ =>
        s.send plugin n (HeartbeatMessage.mk (fleet n).consumerId timestamp).toJson .quiet
    | .deliver n =>
      match s.links n with
      | none => none
      | some link =>
        match link.consumer.results[link.delivered]? with
        | none => none
        | some result =>
          (s.send plugin n result.toJson .quiet).map fun t =>
            t.setLink n { link with delivered := link.delivered + 1 }
    | .arrive n fs server =>
      match s.links n with
      | none => none
      | some link =>
        match (s.world.sentTo n)[link.taken]? with
        | none => none
        | some msg =>
          ((consumerSystem (fleet n).config).step link.consumer
            (.frame (Path.ofString (msg.toString (fleet n).json)) fs server)).map fun consumer =>
              s.setLink n { link with consumer := consumer, taken := link.taken + 1 }
    | .consumer n event =>
      match s.links n with
      | none => none
      | some link =>
        if event.isFrame then none
        else
          ((consumerSystem (fleet n).config).step link.consumer event).map fun consumer =>
            s.setLink n { link with consumer := consumer }
    | .producer event =>
      if event.fromPeer then none
      else
        ((producerSystem plugin).step s.world event).map fun world => { s with world := world }

end PnC.Source
