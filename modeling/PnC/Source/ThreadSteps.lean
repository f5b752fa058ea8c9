import PnC.Source.ProducerSteps
import PnC.Source.ProducerThreads

/-!
# What a step of a thread does

A step that is not cut calls no next_unit, so that it is a step of `producerSystem` with any
other plugin too. An access changes one handler and the producer.
-/
namespace PnC.Source

open PnC.Library

variable {σ : Type} {plugin : TestPlugin σ} {s t : Threads σ} {thread : ThreadId}

/-! ## Steps that are not cut -/

namespace World

theorem loopFrame_unserved (plugin other : TestPlugin σ) (w : World σ) (n : Nat) (c : Connection)
    {j : Json} (env : HandlerEnv) (unserved : isRequest j = false) :
    w.loopFrame plugin n c j env = w.loopFrame other n c j env := by
  unfold loopFrame
  split
  next => rfl
  next kind =>
    unfold isRequest at unserved
    rw [kind] at unserved
    cases unserved
  next => rfl
  next => rfl
  next => rfl

theorem handleUdpMessage_unserved (plugin other : TestPlugin σ) (w : World σ) (address : String)
    (port : Nat) {j : Json} (env : HandlerEnv) (unserved : isRequest j = false) :
    w.handleUdpMessage plugin address port j env = w.handleUdpMessage other address port j env := by
  unfold handleUdpMessage
  split
  next => rfl
  next => rfl
  next kind =>
    unfold isRequest at unserved
    rw [kind] at unserved
    cases unserved
  next => rfl
  next => rfl
  next => rfl

/-- Behind a frame a handler is not in its recv_frame. -/
theorem handshakeFrame_own (w : World σ) (n : Nat) (c : Connection) (j : Json) (env : HandlerEnv) :
    ∃ after, (w.handshakeFrame n c j env).connections n = some after ∧
      after.stage ≠ .receiving ∧ after.stage ≠ .stuck := by
  unfold handshakeFrame
  split
  next => exact ⟨_, Function.update_self .., nofun, nofun⟩
  next =>
    split
    next => exact ⟨_, Function.update_self .., nofun, nofun⟩
    next =>
      split
      · split <;> exact ⟨_, Function.update_self .., nofun, nofun⟩
      · exact ⟨_, Function.update_self .., nofun, nofun⟩
  next => exact ⟨_, Function.update_self .., nofun, nofun⟩

theorem loopFrame_own (plugin : TestPlugin σ) (w : World σ) (n : Nat) (c : Connection) {j : Json}
    (env : HandlerEnv) (unserved : isRequest j = false) :
    ∃ after, (w.loopFrame plugin n c j env).connections n = some after ∧
      after.stage ≠ .receiving ∧ after.stage ≠ .stuck := by
  unfold loopFrame
  split
  next => exact ⟨_, Function.update_self .., nofun, nofun⟩
  next kind =>
    unfold isRequest at unserved
    rw [kind] at unserved
    cases unserved
  next => split <;> exact ⟨_, Function.update_self .., nofun, nofun⟩
  next => split <;> exact ⟨_, Function.update_self .., nofun, nofun⟩
  next => exact ⟨_, Function.update_self .., nofun, nofun⟩

end World

/-- A plugin that none of these steps asks. -/
def unasked : TestPlugin σ := ⟨fun _ => .stuck .diverges, fun _ => .null, fun _ => false⟩

theorem whole_unasked {event : Event} (allowed : s.allows event = true) :
    (producerSystem plugin).step s.world event = (producerSystem unasked).step s.world event := by
  cases event with
  | frame n j env =>
    simp only [producerSystem]
    cases present : s.world.connections n with
    | none => rfl
    | some c =>
      dsimp only
      split
      next => rfl
      next receiving =>
        have unserved : isRequest j = false := by
          simpa [Threads.allows, Threads.isReceiving, present, receiving] using
            (Bool.and_eq_true_iff.mp allowed).2
        exact congrArg some (World.loopFrame_unserved plugin unasked s.world n c env unserved)
      next => rfl
  | datagram address port j env =>
    have unserved : isRequest j = false := by
      simpa using (Bool.and_eq_true_iff.mp allowed).2
    exact congrArg some (World.handleUdpMessage_unserved plugin unasked s.world address port env
      unserved)
  | _ => rfl

theorem Producer.running_handleResult {p : Producer σ} (halted : p.running = false)
    (result : ResultMessage) : (p.handleResult result).running = false := by
  unfold Producer.handleResult
  by_cases success : result.status = "success"
  · simp only [if_pos success]
    cases result.foundPassword with
    | none => exact halted
    | some password => rfl
  · simp only [if_neg success]
    cases result.fileError with
    | none => exact halted
    | some error => rfl

/-- The plugin stays as it is, and running_ is never set again. -/
theorem unasked_steps {peer : Option Nat} {p q : Producer σ}
    (steps : ProducerSteps unasked peer p q) :
    q.plugin = p.plugin ∧ (p.running = false → q.running = false) := by
  induction steps with
  | refl => exact ⟨rfl, id⟩
  | tail _ step ih =>
    obtain ⟨plugin, running⟩ := ih
    rw [← plugin]
    cases step with
    | unit timestamp consumerId call => cases call
    | refused call =>
      rcases call with call | ⟨what, call⟩
      · cases call
      · cases call
    | result msg =>
      exact ⟨(frame_handleResult _ msg).2.2.1,
        fun halted => Producer.running_handleResult (running halted) msg⟩
    | register consumerId now own =>
      rw [Producer.registerConsumer_eq]
      exact ⟨rfl, running⟩
    | registerUdp consumerId address port now =>
      rw [Producer.registerConsumerUdp_eq]
      exact ⟨rfl, running⟩
    | stop => exact ⟨rfl, fun _ => rfl⟩
    | reclaim | touch | unregister => exact ⟨rfl, running⟩

theorem producer_whole {event : Event} {w : World σ} (allowed : s.allows event = true)
    (taken : (producerSystem plugin).step s.world event = some w) :
    w.producer.plugin = s.world.producer.plugin ∧
      (s.world.producer.running = false → w.producer.running = false) := by
  rw [whole_unasked allowed] at taken
  exact unasked_steps (producer_steps taken)

theorem stage_foreign {event : Event} {w : World σ} {n : Nat} {after : Connection}
    (foreign : event.connection ≠ some n)
    (taken : (producerSystem plugin).step s.world event = some w)
    (present : w.connections n = some after) :
    ∃ c, s.world.connections n = some c ∧ c.stage = after.stage := by
  rcases connections_step foreign taken with same | ⟨c, before, closed⟩
  · rw [same] at present
    exact ⟨after, present, rfl⟩
  · rw [closed] at present
    cases present
    exact ⟨c, before, rfl⟩

/-- The thread of the connection gets into its recv_frame by its loop condition alone. -/
theorem stage_own {event : Event} {w : World σ} {n : Nat} {after : Connection}
    (own : event.connection = some n) (allowed : s.allows event = true)
    (taken : (producerSystem plugin).step s.world event = some w)
    (present : w.connections n = some after) :
    (after.stage = .receiving → s.world.producer.running = true) ∧ after.stage ≠ .stuck := by
  have aside {stage : Stage} (elsewhere : stage ≠ .receiving ∧ stage ≠ .stuck) :
      (stage = .receiving → s.world.producer.running = true) ∧ stage ≠ .stuck :=
    ⟨fun receiving => absurd receiving elsewhere.1, elsewhere.2⟩
  cases world_step taken with
  | accept m =>
    cases own
    cases (Function.update_self ..).symm.trans present
    exact aside ⟨by simp, by simp⟩
  | handshake m c j env =>
    cases own
    obtain ⟨own, entered, elsewhere⟩ := World.handshakeFrame_own s.world n c j env
    cases entered.symm.trans present
    exact aside elsewhere
  | inLoop m c j env found receiving =>
    cases own
    have unserved : isRequest j = false := by
      simpa [Threads.allows, Threads.isReceiving, found, receiving] using
        (Bool.and_eq_true_iff.mp allowed).2
    obtain ⟨own, entered, elsewhere⟩ := World.loopFrame_own plugin s.world n c env unserved
    cases entered.symm.trans present
    exact aside elsewhere
  | loopTest m =>
    cases own
    cases (Function.update_self ..).symm.trans present
    dsimp only
    split
    next goesOn => exact ⟨fun _ => (Bool.and_eq_true_iff.mp goesOn).1, by simp⟩
    next => exact aside ⟨by simp, by simp⟩
  | broken m | reclaim m | unregister m =>
    cases own
    cases (Function.update_self ..).symm.trans present
    exact aside ⟨by simp, by simp⟩
  | datagram | tick | monitorScan | monitorEvict | stop => cases own

/-- Without connections there are none but accepted ones. -/
theorem connections_none {event : Event} {w : World σ} (nowhere : ∀ n, s.world.connections n = none)
    (notAccept : ∀ n, event ≠ .accept n)
    (taken : (producerSystem plugin).step s.world event = some w) (n : Nat) :
    w.connections n = none := by
  by_cases own : event.connection = some n
  · cases event with
    | accept m => exact absurd rfl (notAccept m)
    | frame m | broken m | loopTest m | reclaim m | unregister m =>
      simp only [producerSystem, nowhere] at taken
      cases taken
    | datagram | tick | monitorScan | monitorEvict | stop => cases own
  · rcases connections_step own taken with same | ⟨c, present, -⟩
    · exact same.trans (nowhere n)
    · cases (nowhere n).symm.trans present

/-! ## The way into the dispatch loop -/

/-- A handler in front of its first iteration. -/
def Serving.new (peer : Endpoint) (req : WorkRequestMessage) : Serving :=
  ⟨peer, ⟨req.consumerId, req.threadsAvailable.toNat, .between⟩⟩

theorem serving_requestFrame (s : Threads σ) (n : Nat) (c : Connection) {j : Json}
    {req : WorkRequestMessage} (parsed : WorkRequestMessage.fromJson j = .ok req) :
    (s.requestFrame n c j).serving =
      Function.update s.serving (.client n) (some (.new (.tcp n) req)) := by
  unfold Threads.requestFrame
  rw [parsed]
  rfl

theorem serving_requestDatagram (s : Threads σ) (address : String) (port : Nat) {j : Json}
    {req : WorkRequestMessage} (parsed : WorkRequestMessage.fromJson j = .ok req) :
    (s.requestDatagram address port j).serving =
      Function.update s.serving .udp (some (.new (.udp address port) req)) := by
  unfold Threads.requestDatagram
  rw [parsed]
  rfl

theorem client_ne_udp (n : Nat) : ThreadId.client n ≠ .udp := nofun

theorem client_requestDatagram (s : Threads σ) (address : String) (port : Nat) (j : Json)
    (n : Nat) : (s.requestDatagram address port j).serving (.client n) = s.serving (.client n) := by
  cases parsed : WorkRequestMessage.fromJson j with
  | error what =>
    unfold Threads.requestDatagram
    rw [parsed]
  | ok req =>
    rw [serving_requestDatagram s address port parsed]
    exact Function.update_of_ne (client_ne_udp n) ..

/-- A request by itself changes connected_consumers_ only. -/
theorem producer_requestFrame (s : Threads σ) (n : Nat) (c : Connection) (j : Json) :
    (s.requestFrame n c j).world.producer.plugin = s.world.producer.plugin ∧
      (s.requestFrame n c j).world.producer.running = s.world.producer.running := by
  unfold Threads.requestFrame
  dsimp only
  split
  next => exact ⟨rfl, rfl⟩
  next =>
    dsimp only [Threads.serve, Threads.setServing, World.setConnection, World.setProducer,
      Producer.updateConsumerActivity]
    split
    · rw [Producer.registerConsumer_eq]
      exact ⟨rfl, rfl⟩
    · exact ⟨rfl, rfl⟩

theorem producer_requestDatagram (s : Threads σ) (address : String) (port : Nat) (j : Json) :
    (s.requestDatagram address port j).world.producer.plugin = s.world.producer.plugin ∧
      (s.requestDatagram address port j).world.producer.running = s.world.producer.running := by
  unfold Threads.requestDatagram
  dsimp only
  split <;> exact ⟨rfl, rfl⟩

theorem connections_requestFrame_of_ne (s : Threads σ) {n m : Nat} (different : m ≠ n)
    (c : Connection) (j : Json) :
    (s.requestFrame n c j).world.connections m = s.world.connections m := by
  unfold Threads.requestFrame
  dsimp only
  split <;> exact Function.update_of_ne different ..

theorem connections_requestDatagram (s : Threads σ) (address : String) (port : Nat) (j : Json) :
    (s.requestDatagram address port j).world.connections = s.world.connections := by
  unfold Threads.requestDatagram
  dsimp only
  split <;> rfl

/-- The stage of the connection after a request. -/
theorem stage_requestFrame (s : Threads σ) (n : Nat) (c : Connection) (j : Json) :
    ∃ after, (s.requestFrame n c j).world.connections n = some after ∧
      (after.stage = c.stage ∨ after.stage = .leaving) := by
  unfold Threads.requestFrame
  dsimp only
  split
  next => exact ⟨_, Function.update_self .., .inr rfl⟩
  next => exact ⟨_, Function.update_self .., .inl rfl⟩

/-- A request changes the world and the place of its thread only. -/
theorem requestFrame_eq (s : Threads σ) (n : Nat) (c : Connection) (j : Json) :
    s.requestFrame n c j =
      { s with
        world := (s.requestFrame n c j).world
        serving := (s.requestFrame n c j).serving } := by
  unfold Threads.requestFrame
  dsimp only
  split <;> rfl

theorem requestDatagram_eq (s : Threads σ) (address : String) (port : Nat) (j : Json) :
    s.requestDatagram address port j =
      { s with
        world := (s.requestDatagram address port j).world
        serving := (s.requestDatagram address port j).serving
        udp := (s.requestDatagram address port j).udp } := by
  unfold Threads.requestDatagram
  dsimp only
  split <;> rfl

/-! ## The way back to the loop -/

theorem serving_leave (s : Threads σ) (thread : ThreadId) (stage : Stage) :
    (s.leave thread stage).serving = Function.update s.serving thread none := by
  unfold Threads.leave
  cases thread with
  | udp => rfl
  | client n =>
    dsimp only
    split <;> rfl

theorem producer_leave (s : Threads σ) (thread : ThreadId) (stage : Stage) :
    (s.leave thread stage).world.producer = s.world.producer := by
  unfold Threads.leave
  cases thread with
  | udp => rfl
  | client n =>
    dsimp only
    split <;> rfl

theorem udp_leave (s : Threads σ) (thread : ThreadId) (stage : Stage) :
    (s.leave thread stage).udp = if thread = .udp then .atLoop else s.udp := by
  unfold Threads.leave
  cases thread with
  | udp => rfl
  | client n =>
    dsimp only
    split <;> rfl

theorem leave_eq (s : Threads σ) (thread : ThreadId) (stage : Stage) :
    s.leave thread stage =
      { s with
        world := (s.leave thread stage).world
        serving := (s.leave thread stage).serving
        udp := (s.leave thread stage).udp } := by
  unfold Threads.leave
  cases thread with
  | udp => rfl
  | client n =>
    dsimp only
    split <;> rfl

theorem connections_leave (s : Threads σ) (thread : ThreadId) (stage : Stage) (n : Nat) :
    (s.leave thread stage).world.connections n =
      if thread = .client n then
        (s.world.connections n).map fun c => { c with stage := stage }
      else s.world.connections n := by
  unfold Threads.leave
  cases thread with
  | udp => rfl
  | client m =>
    dsimp only [Threads.setServing]
    by_cases same : n = m
    · subst same
      rw [if_pos rfl]
      cases present : s.world.connections n with
      | none => exact present
      | some c => exact Function.update_self ..
    · rw [if_neg fun other => same (ThreadId.client.inj other).symm]
      split
      · rfl
      · exact Function.update_of_ne same ..

/-! ## Accesses -/

/-- A unit that next_unit has given and whose send has not begun. -/
def Phase.unsent : Phase → Bool
  | .generated _ | .pending _ | .marked _ | .counted _ => true
  | .between | .read _ | .left | .stuck => false

/-- In front of a call of next_unit. -/
def Handler.canCall (h : Handler) : Bool :=
  match h.phase with
  | .between => decide (0 < h.remaining)
  | .read _ => true
  | _ => false

section Access
variable {serving : Serving} {access : Access} {d : Dispatching σ} {msg : WorkUnitMessage}

theorem step_access_of (standing : s.serving thread = some serving)
    (possible : ¬ (thread = .udp ∧ access = .send false))
    (taken : (dispatchSystem plugin).step (s.alone serving) access.event = some d) :
    (threadSystem plugin).step s (.access thread access) =
      some (s.afterAccess thread serving.peer d) := by
  simp only [threadSystem, standing, taken, if_neg possible, Option.map_some]

theorem step_access (access : Access) (standing : s.serving thread = some serving)
    (possible : access ≠ .send false)
    (taken : (dispatchSystem plugin).step (s.alone serving) access.event = some d) :
    (threadSystem plugin).step s (.access thread access) =
      some (s.afterAccess thread serving.peer d) :=
  step_access_of standing (fun refused => possible refused.2) taken

@[simp] theorem serving_afterAccess (s : Threads σ) (thread : ThreadId) (peer : Endpoint)
    (d : Dispatching σ) :
    (s.afterAccess thread peer d).serving thread = some ⟨peer, d.handlers 0⟩ :=
  Function.update_self ..

theorem serving_afterAccess_of_ne (s : Threads σ) {thread other : ThreadId}
    (different : other ≠ thread) (peer : Endpoint) (d : Dispatching σ) :
    (s.afterAccess thread peer d).serving other = s.serving other :=
  Function.update_of_ne different ..

/-- What an access does: it begins an iteration, it calls next_unit, or it carries on with a
unit that has not been sent. -/
inductive AccessStep (plugin : TestPlugin σ) (s : Threads σ) (serving : Serving) :
    Access → Dispatching σ → Prop where
  | readSeq (timestamp : String) (more : serving.handler.canCall = true) :
    AccessStep plugin s serving (.readSeq timestamp)
      ((s.alone serving).setPhase 0 (.read (s.world.producer.unitMessage timestamp .null)))
  | nextUnit (msg : WorkUnitMessage) (ready : serving.handler.phase = .read msg) :
    AccessStep plugin s serving .nextUnit
      ((s.alone serving).afterNextUnit 0 msg (plugin.nextUnit s.world.producer.plugin))
  | carriesOn {access : Access} {d : Dispatching σ}
    (unsent : serving.handler.phase.unsent = true) : AccessStep plugin s serving access d

theorem access_steps
    (taken : (dispatchSystem plugin).step (s.alone serving) access.event = some d) :
    AccessStep plugin s serving access d := by
  cases access with
  | readSeq timestamp =>
    simp only [Access.event, dispatchSystem, Threads.alone] at taken
    split at taken
    next top =>
      cases taken
      exact .readSeq timestamp (by simp [Handler.canCall, top])
    next => cases taken
  | nextUnit =>
    simp only [Access.event, dispatchSystem, Threads.alone] at taken
    split at taken
    next msg ready =>
      cases taken
      exact .nextUnit msg ready
    next => cases taken
  | addPending | markSent | incrementSeq | send =>
    simp only [Access.event, dispatchSystem, Threads.alone] at taken
    split at taken
    next standing => exact .carriesOn (by rw [standing]; rfl)
    next => cases taken

section Alone
variable (plugin s)

theorem alone_readSeq {consumerId : String} {remaining : Nat}
    (top : serving.handler = ⟨consumerId, remaining + 1, .between⟩) (timestamp : String) :
    (dispatchSystem plugin).step (s.alone serving) (.readSeq 0 timestamp) =
      some ((s.alone serving).setPhase 0
        (.read (s.world.producer.unitMessage timestamp .null))) := by
  simp only [dispatchSystem, Threads.alone, top]

theorem alone_nextUnit (ready : serving.handler.phase = .read msg) :
    (dispatchSystem plugin).step (s.alone serving) (.nextUnit 0) =
      some ((s.alone serving).afterNextUnit 0 msg
        (plugin.nextUnit s.world.producer.plugin)) := by
  simp only [dispatchSystem, Threads.alone, ready]

theorem alone_addPending (generated : serving.handler.phase = .generated msg) :
    ∃ d, (dispatchSystem plugin).step (s.alone serving) (.addPending 0) = some d ∧
      (d.handlers 0).phase = .pending msg := by
  simp only [dispatchSystem, Threads.alone, generated]
  exact ⟨_, rfl, rfl⟩

theorem alone_markSent (pending : serving.handler.phase = .pending msg) :
    ∃ d, (dispatchSystem plugin).step (s.alone serving) (.markSent 0) = some d ∧
      (d.handlers 0).phase = .marked msg := by
  simp only [dispatchSystem, Threads.alone, pending]
  exact ⟨_, rfl, rfl⟩

theorem alone_incrementSeq (marked : serving.handler.phase = .marked msg) :
    ∃ d, (dispatchSystem plugin).step (s.alone serving) (.incrementSeq 0) = some d ∧
      (d.handlers 0).phase = .counted msg := by
  simp only [dispatchSystem, Threads.alone, marked]
  exact ⟨_, rfl, rfl⟩

theorem alone_send (counted : serving.handler.phase = .counted msg) :
    ∃ d, (dispatchSystem plugin).step (s.alone serving) (.send 0 true) = some d := by
  simp only [dispatchSystem, Threads.alone, counted]
  exact ⟨_, rfl⟩

end Alone

/-- A call of next_unit that gives no unit is the handler's last. -/
theorem afterNextUnit_refused (serving : Serving) (msg : WorkUnitMessage)
    (refused : ∀ state job, plugin.nextUnit s.world.producer.plugin ≠ .unit state job) :
    ∃ handler, (s.alone serving).afterNextUnit 0 msg (plugin.nextUnit s.world.producer.plugin) =
        ⟨{ s.world.producer with plugin := plugin.after s.world.producer.plugin },
          Function.update (fun _ => serving.handler) 0 handler, [], []⟩ ∧
      handler.phase.unsent = false ∧ handler.canCall = false ∧
      (handler.phase = .stuck → ∃ fault, plugin.nextUnit s.world.producer.plugin = .stuck fault) ∧
      (handler.phase ≠ .stuck → handler.phase = .left ∨
        handler.remaining = 0 ∧ handler.phase = .between) := by
  unfold TestPlugin.after
  cases call : plugin.nextUnit s.world.producer.plugin with
  | unit state job => exact absurd call (refused state job)
  | exhausted state => exact ⟨_, rfl, rfl, rfl, nofun, fun _ => .inr ⟨rfl, rfl⟩⟩
  | threw state what => exact ⟨_, rfl, rfl, rfl, nofun, fun _ => .inl rfl⟩
  | stuck fault =>
    exact ⟨_, rfl, rfl, rfl, fun _ => ⟨fault, rfl⟩, fun running => absurd rfl running⟩

end Access

/-! ## Every step -/

/-- What each step does, and where its thread has to be. -/
inductive ThreadStep (plugin : TestPlugin σ) (s : Threads σ) : ThreadEvent → Threads σ → Prop where
  | whole {event : Event} {w : World σ} (allowed : s.allows event = true)
    (stepped : (producerSystem plugin).step s.world event = some w) :
    ThreadStep plugin s (.whole event) (s.afterWhole w event)
  | request {n : Nat} {c : Connection} (j : Json) (present : s.world.connections n = some c)
    (receiving : c.stage = .receiving) (free : s.serving (.client n) = none) :
    ThreadStep plugin s (.request n j) (s.requestFrame n c j)
  | requestUdp (address : String) (port : Nat) (j : Json) (receiving : s.udp = .receiving)
    (free : s.serving .udp = none) :
    ThreadStep plugin s (.requestUdp address port j) (s.requestDatagram address port j)
  | access {thread : ThreadId} {access : Access} {serving : Serving} {d : Dispatching σ}
    (standing : s.serving thread = some serving) (step : AccessStep plugin s serving access d) :
    ThreadStep plugin s (.access thread access) (s.afterAccess thread serving.peer d)
  | leave {thread : ThreadId} {serving : Serving} (stage : Stage)
    (standing : s.serving thread = some serving) (aside : stage ≠ .receiving ∧ stage ≠ .stuck) :
    ThreadStep plugin s (.leave thread) (s.leave thread stage)
  | spin {thread : ThreadId} {serving : Serving} (standing : s.serving thread = some serving) :
    ThreadStep plugin s (.spin thread) s
  | udpLoopTest (stage : UdpStage)
    (goesOn : stage = .receiving → s.udpRunning = true ∧ s.stopRequested = false) :
    ThreadStep plugin s .udpLoopTest { s with udp := stage }
  | udpBroken : ThreadStep plugin s .udpBroken { s with udp := .atLoop }
  | acceptTransfer (k : Nat) (accepts : s.fileLoop = true) :
    ThreadStep plugin s (.acceptTransfer k)
      { s with transfers := Function.update s.transfers k (some .receiving) }
  | transfer {k : Nat} {stage : TransferStage} (next : TransferStage)
    (present : s.transfers k = some stage) (stays : stage ≠ .returned) :
    ThreadStep plugin s (.transfer k)
      { s with transfers := Function.update s.transfers k (some next) }
  | fileLoopEnds : ThreadStep plugin s .fileLoopEnds { s with fileLoop := false }
  | signal : ThreadStep plugin s .signal { s with stopRequested := true }
  | shutdown (accepting : s.main = .accepting) :
    ThreadStep plugin s .shutdown
      { s with
        world := s.world.setProducer { s.world.producer with running := false }
        udpRunning := false
        main := .stopping }
  | join (stopping : s.main = .stopping) (ended : s.fileLoop = false) :
    ThreadStep plugin s .join { s with main := .joined }
  | save (joined : s.main = .joined) : ThreadStep plugin s .save { s with main := .saved }
  | destroy (saved : s.main = .saved) : ThreadStep plugin s .destroy { s with main := .destroyed }

theorem request_steps {n : Nat} {j : Json}
    (taken : (threadSystem plugin).step s (.request n j) = some t) :
    ThreadStep plugin s (.request n j) t := by
  simp only [threadSystem] at taken
  split at taken
  next c present free =>
    split at taken
    next arrived =>
      cases taken
      exact .request j present arrived.1 free
    next => cases taken
  next => cases taken

theorem requestUdp_steps {address : String} {port : Nat} {j : Json}
    (taken : (threadSystem plugin).step s (.requestUdp address port j) = some t) :
    ThreadStep plugin s (.requestUdp address port j) t := by
  simp only [threadSystem] at taken
  split at taken
  next receiving free =>
    split at taken
    next =>
      cases taken
      exact .requestUdp address port j receiving free
    next => cases taken
  next => cases taken

theorem access_taken {thread : ThreadId} {access : Access}
    (taken : (threadSystem plugin).step s (.access thread access) = some t) :
    ThreadStep plugin s (.access thread access) t := by
  simp only [threadSystem] at taken
  split at taken
  next => cases taken
  next =>
    split at taken
    next => cases taken
    next serving standing =>
      obtain ⟨d, stepped, rfl⟩ := Option.map_eq_some_iff.mp taken
      exact .access standing (access_steps stepped)

theorem leave_steps {thread : ThreadId}
    (taken : (threadSystem plugin).step s (.leave thread) = some t) :
    ThreadStep plugin s (.leave thread) t := by
  simp only [threadSystem] at taken
  split at taken
  next standing =>
    cases taken
    exact .leave .atLoop standing (by decide)
  next standing =>
    cases taken
    exact .leave .leaving standing (by decide)
  next => cases taken

theorem udpLoopTest_steps (taken : (threadSystem plugin).step s .udpLoopTest = some t) :
    ThreadStep plugin s .udpLoopTest t := by
  simp only [threadSystem] at taken
  split at taken
  next =>
    cases taken
    apply ThreadStep.udpLoopTest
    intro receiving
    split at receiving
    next goesOn => simpa using goesOn
    next => cases receiving
  next => cases taken

theorem transfer_steps {k : Nat}
    (taken : (threadSystem plugin).step s (.transfer k) = some t) :
    ThreadStep plugin s (.transfer k) t := by
  simp only [threadSystem] at taken
  split at taken
  next present =>
    cases taken
    exact .transfer .answering present (by decide)
  next present =>
    cases taken
    exact .transfer .returned present (by decide)
  next => cases taken

theorem thread_steps {event : ThreadEvent} (taken : (threadSystem plugin).step s event = some t) :
    ThreadStep plugin s event t := by
  cases event with
  | whole event =>
    simp only [threadSystem] at taken
    split at taken
    next allowed =>
      obtain ⟨w, stepped, rfl⟩ := Option.map_eq_some_iff.mp taken
      exact .whole allowed stepped
    next => cases taken
  | request n j => exact request_steps taken
  | requestUdp address port j => exact requestUdp_steps taken
  | access thread access => exact access_taken taken
  | leave thread => exact leave_steps taken
  | udpLoopTest => exact udpLoopTest_steps taken
  | transfer k => exact transfer_steps taken
  | signal =>
    cases taken
    exact .signal
  | spin thread =>
    simp only [threadSystem] at taken
    split at taken
    next standing =>
      cases taken
      exact .spin standing
    next => cases taken
  | udpBroken =>
    simp only [threadSystem] at taken
    split at taken
    next =>
      cases taken
      exact .udpBroken
    next => cases taken
  | acceptTransfer k =>
    simp only [threadSystem] at taken
    split at taken
    next accepts _ =>
      cases taken
      exact .acceptTransfer k accepts
    next => cases taken
  | fileLoopEnds =>
    simp only [threadSystem] at taken
    split at taken
    next =>
      cases taken
      exact .fileLoopEnds
    next => cases taken
  | shutdown =>
    simp only [threadSystem] at taken
    split at taken
    next accepting =>
      cases taken
      exact .shutdown accepting
    next => cases taken
  | join =>
    simp only [threadSystem] at taken
    split at taken
    next standing =>
      cases taken
      exact .join standing.1 standing.2.2.1
    next => cases taken
  | save =>
    simp only [threadSystem] at taken
    split at taken
    next joined =>
      cases taken
      exact .save joined
    next => cases taken
  | destroy =>
    simp only [threadSystem] at taken
    split at taken
    next saved =>
      cases taken
      exact .destroy saved
    next => cases taken

end PnC.Source
