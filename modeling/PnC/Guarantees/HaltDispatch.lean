import PnC.Source.EchoPlugin
import PnC.Guarantees.SettledThreads

/-!
# What is dispatched behind a halting result

handle_result clears running_, which handle_client tests between two frames only: a handler
that waits in recv_frame still serves one request, one inside its dispatch loop runs it to
its end, and udp_loop tests another flag.
-/
namespace PnC.Guarantees.HaltDispatch

open PnC.Library PnC.Source

variable {σ : Type}

/-- A result on which handle_result clears running_. -/
def Halts (result : ResultMessage) : Prop :=
  result.status = "success" ∧ result.foundPassword.isSome ∨
    result.status = "failure" ∧ result.fileError.isSome

/-- The step processes a halting result. -/
inductive ProcessesHalt (s : Threads σ) : ThreadEvent → Prop where
  | client {n : Nat} {c : Connection} {j : Json} (env : HandlerEnv) {result : ResultMessage}
    (present : s.world.connections n = some c) (receiving : c.stage = .receiving)
    (kind : msgType j = .ok "result") (parsed : ResultMessage.fromJson j = .ok result)
    (halts : Halts result) : ProcessesHalt s (.whole (.frame n j env))
  | udp (address : String) (port : Nat) {j : Json} (env : HandlerEnv) {result : ResultMessage}
    (kind : msgType j = .ok "result") (parsed : ResultMessage.fromJson j = .ok result)
    (halts : Halts result) : ProcessesHalt s (.whole (.datagram address port j env))

/-! ## A state that is not settled -/

section Silent
variable {plugin : TestPlugin σ} {s t : Threads σ} {thread : ThreadId} {serving : Serving}
  {msg : WorkUnitMessage}

/-- In no continuation is anything generated or sent. -/
def Silent (plugin : TestPlugin σ) (s : Threads σ) : Prop :=
  ∀ continuation, (threadSystem plugin).Along (Quiet plugin) s continuation

theorem Silent.run (silent : Silent plugin s) {events : List ThreadEvent}
    (replay : (threadSystem plugin).run s events = some t) : Silent plugin t :=
  fun continuation => TransitionSystem.along_append replay (silent (events ++ continuation))

theorem Silent.step (silent : Silent plugin s) {event : ThreadEvent}
    (taken : (threadSystem plugin).step s event = some t) :
    Quiet plugin s event t ∧ Silent plugin t :=
  ⟨(silent [event] t taken).1, fun continuation => (silent (event :: continuation) t taken).2⟩

/-- A unit that has been generated is sent in the end. -/
theorem Silent.not_counted (silent : Silent plugin s) (standing : s.serving thread = some serving)
    (counted : serving.handler.phase = .counted msg) : False := by
  obtain ⟨d, taken⟩ := alone_send plugin s counted
  exact (silent.step (step_access (.send true) standing nofun taken)).1

theorem Silent.not_marked (silent : Silent plugin s) (standing : s.serving thread = some serving)
    (marked : serving.handler.phase = .marked msg) : False := by
  obtain ⟨d, taken, counted⟩ := alone_incrementSeq plugin s marked
  have later := (silent.step (step_access .incrementSeq standing nofun taken)).2
  exact later.not_counted (serving_afterAccess ..) counted

theorem Silent.not_pending (silent : Silent plugin s) (standing : s.serving thread = some serving)
    (pending : serving.handler.phase = .pending msg) : False := by
  obtain ⟨d, taken, marked⟩ := alone_markSent plugin s pending
  have later := (silent.step (step_access .markSent standing nofun taken)).2
  exact later.not_marked (serving_afterAccess ..) marked

theorem Silent.not_generated (silent : Silent plugin s)
    (standing : s.serving thread = some serving)
    (generated : serving.handler.phase = .generated msg) : False := by
  obtain ⟨d, taken, pending⟩ := alone_addPending plugin s generated
  have later := (silent.step (step_access .addPending standing nofun taken)).2
  exact later.not_pending (serving_afterAccess ..) pending

theorem Silent.nothingUnsent (silent : Silent plugin s)
    (standing : s.serving thread = some serving) : serving.handler.phase.unsent = false := by
  cases phase : serving.handler.phase with
  | generated msg => exact (silent.not_generated standing phase).elim
  | pending msg => exact (silent.not_pending standing phase).elim
  | marked msg => exact (silent.not_marked standing phase).elim
  | counted msg => exact (silent.not_counted standing phase).elim
  | between | read | left | stuck => rfl

/-- The run has brought the thread in front of its call of next_unit, and left everything
else that a call depends on alone. -/
structure Ready (s t : Threads σ) (thread : ThreadId) : Prop where
  standing : ∃ serving msg, t.serving thread = some serving ∧ serving.handler.phase = .read msg
  plugin : t.world.producer.plugin = s.world.producer.plugin
  others : ∀ other, other ≠ thread → CanCall s other → CanCall t other
  flags : t.udpRunning = s.udpRunning ∧ t.stopRequested = s.stopRequested

/-- A request for one unit. -/
def oneUnit : Json := (WorkRequestMessage.mk "" 1 "").toJson

theorem parse_oneUnit : WorkRequestMessage.fromJson oneUnit = .ok ⟨"", 1, ""⟩ := rfl

theorem ready_of_serving (plugin : TestPlugin σ) (standing : s.serving thread = some serving)
    (more : serving.handler.canCall = true) :
    ∃ events t, (threadSystem plugin).run s events = some t ∧ Ready s t thread := by
  obtain ⟨peer, consumerId, remaining, phase⟩ := serving
  cases phase with
  | read msg =>
    exact ⟨[], s, rfl, ⟨_, msg, standing, rfl⟩, rfl, fun _ _ can => can, rfl, rfl⟩
  | between =>
    cases remaining with
    | zero => cases more
    | succ remaining =>
      have taken := step_access (.readSeq "") standing nofun
        (alone_readSeq plugin s rfl "")
      exact ⟨_, _, TransitionSystem.run_single taken, ⟨_, _, serving_afterAccess .., rfl⟩, rfl,
        fun other different => (canCall_afterAccess s different ..).mpr, rfl, rfl⟩
  | generated | pending | marked | counted | left | stuck => cases more

/-- A thread that enters its dispatch loop comes to its call. -/
theorem ready_of_entered {event : ThreadEvent}
    (entered : (threadSystem plugin).step s event = some t)
    (standing : t.serving thread = some serving) (more : serving.handler.canCall = true)
    (same : t.world.producer.plugin = s.world.producer.plugin)
    (others : ∀ other, other ≠ thread → CanCall s other → CanCall t other)
    (flags : t.udpRunning = s.udpRunning ∧ t.stopRequested = s.stopRequested) :
    ∃ events u, (threadSystem plugin).run s events = some u ∧ Ready s u thread := by
  obtain ⟨events, u, replay, ready⟩ := ready_of_serving plugin standing more
  exact ⟨event :: events, u, TransitionSystem.run_after entered replay, ready.standing,
    ready.plugin.trans same,
    fun other different can => ready.others other different (others other different can),
    ready.flags.1.trans flags.1, ready.flags.2.trans flags.2⟩

theorem ready_of_client {n : Nat} {c : Connection} (present : s.world.connections n = some c)
    (receiving : c.stage = .receiving) (free : s.serving (.client n) = none) :
    ∃ events t, (threadSystem plugin).run s events = some t ∧ Ready s t (.client n) := by
  have taken : (threadSystem plugin).step s (.request n oneUnit) =
      some (s.requestFrame n c oneUnit) := by
    simp only [threadSystem, present, free]
    exact if_pos ⟨receiving, rfl⟩
  have serving := serving_requestFrame s n c parse_oneUnit
  have whole := requestFrame_eq s n c oneUnit
  have running := congrArg Threads.udpRunning whole
  have requested := congrArg Threads.stopRequested whole
  refine ready_of_entered taken ((congrFun serving _).trans (Function.update_self ..)) rfl
    (producer_requestFrame s n c oneUnit).1 (fun other different can => ?_)
    ⟨running, requested⟩
  have udp := congrArg Threads.udp whole
  have elsewhere := (congrFun serving other).trans (Function.update_of_ne different ..)
  refine (canCall_congr elsewhere (fun m own => ?_) (fun _ => udp)).mpr can
  apply isReceiving_congr
  exact connections_requestFrame_of_ne s
    (fun same => different (own.trans (congrArg ThreadId.client same))) c oneUnit

theorem ready_of_udp (receiving : s.udp = .receiving) (free : s.serving .udp = none) :
    ∃ events t, (threadSystem plugin).run s events = some t ∧ Ready s t .udp := by
  have taken : (threadSystem plugin).step s (.requestUdp "" 0 oneUnit) =
      some (s.requestDatagram "" 0 oneUnit) := by
    simp only [threadSystem, receiving, free]
    rfl
  have serving := serving_requestDatagram s "" 0 parse_oneUnit
  have whole := requestDatagram_eq s "" 0 oneUnit
  have running := congrArg Threads.udpRunning whole
  have requested := congrArg Threads.stopRequested whole
  refine ready_of_entered taken ((congrFun serving _).trans (Function.update_self ..)) rfl
    (producer_requestDatagram s "" 0 oneUnit).1 (fun other different can => ?_)
    ⟨running, requested⟩
  have elsewhere := (congrFun serving other).trans (Function.update_of_ne different ..)
  refine (canCall_congr elsewhere (fun m _ => ?_) (fun own => absurd own different)).mpr can
  exact isReceiving_congr (congrFun (connections_requestDatagram s "" 0 oneUnit) m)

/-- A thread in its receive gets a request. -/
theorem ready_of_canCall (plugin : TestPlugin σ) (can : CanCall s thread) :
    ∃ events t, (threadSystem plugin).run s events = some t ∧ Ready s t thread := by
  cases standing : s.serving thread with
  | some serving =>
    exact ready_of_serving plugin standing ((canCall_of_serving standing).mp can)
  | none =>
    unfold CanCall at can
    rw [standing] at can
    cases thread with
    | client n =>
      obtain ⟨c, present, receiving⟩ := isReceiving_iff.mp can
      exact ready_of_client present receiving standing
    | udp => exact ready_of_udp can standing

/-- The run has taken the thread behind a call of next_unit that gave nothing. -/
structure Called (plugin : TestPlugin σ) (s t : Threads σ) (thread : ThreadId) : Prop where
  state : t.world.producer.plugin = plugin.after s.world.producer.plugin
  others : ∀ other, other ≠ thread → CanCall s other → CanCall t other
  flags : t.udpRunning = s.udpRunning ∧ t.stopRequested = s.stopRequested
  leaves : (∃ fault, plugin.nextUnit s.world.producer.plugin = .stuck fault) ∨
    ∃ serving, t.serving thread = some serving ∧
      (serving.handler.phase = .left ∨
        serving.handler.remaining = 0 ∧ serving.handler.phase = .between)

theorem Silent.called (silent : Silent plugin s) (thread : ThreadId) (can : CanCall s thread) :
    (∀ state job, plugin.nextUnit s.world.producer.plugin ≠ .unit state job) ∧
      ∃ events t, (threadSystem plugin).run s events = some t ∧ Called plugin s t thread := by
  obtain ⟨events, u, replay, ready⟩ := ready_of_canCall plugin can
  obtain ⟨serving, msg, standing, phase⟩ := ready.standing
  have taken := step_access .nextUnit standing nofun
    (alone_nextUnit plugin u phase)
  have refused := ((silent.run replay).step taken).1
  obtain ⟨handler, outcome, -, -, stuck, leaves⟩ :=
    afterNextUnit_refused serving msg refused
  rw [outcome] at taken
  refine ⟨ready.plugin ▸ refused, _, _, TransitionSystem.run_snoc replay taken,
    congrArg plugin.after ready.plugin, fun other different able => ?_, ready.flags, ?_⟩
  · exact (canCall_afterAccess u different ..).mpr (ready.others other different able)
  · by_cases endless : handler.phase = .stuck
    · exact .inl (ready.plugin ▸ stuck endless)
    · exact .inr ⟨_, serving_afterAccess .., leaves endless⟩

/-- The handlers in front of a call make their calls one after the other. -/
theorem Silent.handlers (silent : Silent plugin s) {callers : List ThreadId}
    (distinct : callers.Nodup) (all : ∀ thread ∈ callers, CanCall s thread) (i : Nat)
    (within : i < callers.length) (job : Json) :
    ¬ plugin.Gives s.world.producer.plugin i job := by
  induction callers generalizing s i with
  | nil => cases within
  | cons thread rest ih =>
    obtain ⟨refused, events, t, replay, called⟩ :=
      silent.called thread (all thread List.mem_cons_self)
    cases i with
    | zero =>
      intro gives
      obtain ⟨state, call⟩ := gives
      exact refused state job call
    | succ i =>
      obtain ⟨absent, distinct⟩ := List.nodup_cons.mp distinct
      rw [← gives_after, ← called.state]
      refine ih (silent.run replay) distinct (fun other member => ?_) i
        (Nat.lt_of_succ_lt_succ within)
      exact called.others other (fun same => absent (same ▸ member))
        (all other (List.mem_cons_of_mem thread member))

theorem not_gives_of_stuck {state : σ} {fault : Fault}
    (stuck : plugin.nextUnit state = .stuck fault) (i : Nat) (job : Json) :
    ¬ plugin.Gives state i job := by
  have stays : plugin.after state = state := by
    unfold TestPlugin.after
    rw [stuck]
  induction i with
  | zero =>
    intro gives
    obtain ⟨next, call⟩ := gives
    cases stuck.symm.trans call
  | succ i ih =>
    rw [← gives_after, stays]
    exact ih

theorem step_leave (plugin : TestPlugin σ) (standing : s.serving thread = some serving)
    (leaves : serving.handler.phase = .left ∨
      serving.handler.remaining = 0 ∧ serving.handler.phase = .between) :
    ∃ stage, (threadSystem plugin).step s (.leave thread) = some (s.leave thread stage) := by
  obtain ⟨peer, consumerId, remaining, phase⟩ := serving
  rcases leaves with left | ⟨none, between⟩
  · cases left
    exact ⟨.leaving, by simp only [threadSystem, standing]⟩
  · cases none
    cases between
    exact ⟨.atLoop, by simp only [threadSystem, standing]⟩

theorem step_udpLoopTest (plugin : TestPlugin σ) (loops : LoopsOn s) (top : s.udp = .atLoop) :
    (threadSystem plugin).step s .udpLoopTest = some { s with udp := .receiving } := by
  simp only [threadSystem, top, loops.1, loops.2]
  rfl

/-- udp_loop goes round and round. -/
theorem Silent.loop (silent : Silent plugin s) (loops : LoopsOn s) (top : s.udp = .atLoop)
    (free : s.serving .udp = none) (i : Nat) (job : Json) :
    ¬ plugin.Gives s.world.producer.plugin i job := by
  induction i generalizing s with
  | zero =>
    have silent := (silent.step (step_udpLoopTest plugin loops top)).2
    have can : CanCall { s with udp := .receiving } .udp := by
      unfold CanCall
      rw [free]
    intro gives
    obtain ⟨state, call⟩ := gives
    exact (silent.called .udp can).1 state job call
  | succ i ih =>
    have silent := (silent.step (step_udpLoopTest plugin loops top)).2
    have can : CanCall { s with udp := .receiving } .udp := by
      unfold CanCall
      rw [free]
    obtain ⟨-, events, t, replay, called⟩ := silent.called .udp can
    rcases called.leaves with ⟨fault, stuck⟩ | ⟨serving, standing, leaves⟩
    · exact not_gives_of_stuck stuck (i + 1) job
    · obtain ⟨stage, left⟩ := step_leave plugin standing leaves
      have whole := leave_eq t .udp stage
      have again := ih ((silent.run replay).step left).2
        ⟨(congrArg Threads.udpRunning whole).trans (called.flags.1.trans loops.1),
          (congrArg Threads.stopRequested whole).trans (called.flags.2.trans loops.2)⟩
        (udp_leave t .udp stage) (by rw [serving_leave, Function.update_self])
      rw [producer_leave, called.state] at again
      exact again

end Silent

/-- Client handlers and the UDP thread do not run together. -/
structure OneTransport (s : Threads σ) : Prop where
  tcp : s.transport = .tcp → s.udpRunning = false
  udp : s.transport = .udp → ∀ n, s.world.connections n = none

theorem oneTransport_step {plugin : TestPlugin σ} {s t : Threads σ} {event : ThreadEvent}
    (one : OneTransport s) (taken : (threadSystem plugin).step s event = some t) :
    OneTransport t := by
  obtain ⟨tcp, udp⟩ := one
  cases thread_steps taken with
  | @whole event w allowed stepped =>
    have nowhere (mode : s.transport = .udp) (n : Nat) : w.connections n = none := by
      refine connections_none (udp mode) (fun m accepts => ?_) stepped n
      rw [accepts, Threads.allows, mode] at allowed
      cases allowed
    cases event <;> exact ⟨tcp, nowhere⟩
  | @request n c j present =>
    have whole := requestFrame_eq s n c j
    have mode := congrArg Threads.transport whole
    have running := congrArg Threads.udpRunning whole
    refine ⟨fun tcpMode => running.trans (tcp (mode.symm.trans tcpMode)), fun udpMode => ?_⟩
    cases (udp (mode.symm.trans udpMode) n).symm.trans present
  | requestUdp address port j =>
    have whole := requestDatagram_eq s address port j
    have mode := congrArg Threads.transport whole
    have running := congrArg Threads.udpRunning whole
    have connections := connections_requestDatagram s address port j
    exact ⟨fun tcpMode => running.trans (tcp (mode.symm.trans tcpMode)), fun udpMode n =>
      (congrFun connections n).trans (udp (mode.symm.trans udpMode) n)⟩
  | @leave thread serving stage =>
    have whole := leave_eq s thread stage
    have mode := congrArg Threads.transport whole
    have running := congrArg Threads.udpRunning whole
    refine ⟨fun tcpMode => running.trans (tcp (mode.symm.trans tcpMode)), fun udpMode n => ?_⟩
    rw [connections_leave, udp (mode.symm.trans udpMode) n]
    split <;> rfl
  | shutdown => exact ⟨fun _ => rfl, udp⟩
  | access | spin | udpLoopTest | udpBroken | acceptTransfer | transfer | fileLoopEnds | signal
  | join | save | destroy => exact ⟨tcp, udp⟩

theorem oneTransport_run {plugin : TestPlugin σ} {transport : Transport} {p : Producer σ}
    {events : List ThreadEvent} {s : Threads σ}
    (replay : (threadSystem plugin).run (.started transport p) events = some s) :
    OneTransport s := by
  refine TransitionSystem.run_preserves OneTransport (fun _ _ _ => oneTransport_step) ?_ replay
  exact ⟨fun mode => by subst mode; rfl, fun _ _ => rfl⟩

/-! ## Behind a halting result -/

section Halt
variable {plugin : TestPlugin σ} {s t : Threads σ} {event : ThreadEvent}

theorem running_of_halts {result : ResultMessage} (halts : Halts result) (p : Producer σ) :
    (p.handleResult result).running = false := by
  unfold Producer.handleResult
  rcases halts with ⟨success, found⟩ | ⟨failure, error⟩
  · obtain ⟨password, found⟩ := Option.isSome_iff_exists.mp found
    rw [if_pos success, found]
  · obtain ⟨what, error⟩ := Option.isSome_iff_exists.mp error
    rw [if_neg (by rw [failure]; decide), error]

theorem running_halted (halt : ProcessesHalt s event)
    (taken : (threadSystem plugin).step s event = some t) :
    t.world.producer.running = false := by
  simp only [threadSystem] at taken
  cases halt with
  | client env present receiving kind parsed halts =>
    dsimp only at taken
    split at taken
    next =>
      obtain ⟨w, stepped, rfl⟩ := Option.map_eq_some_iff.mp taken
      simp only [producerSystem, present, receiving, World.loopFrame, kind, parsed] at stepped
      cases stepped
      exact running_of_halts halts _
    next => cases taken
  | udp address port env kind parsed halts =>
    dsimp only at taken
    split at taken
    next =>
      obtain ⟨w, stepped, rfl⟩ := Option.map_eq_some_iff.mp taken
      simp only [producerSystem, World.handleUdpMessage, kind, parsed] at stepped
      cases stepped
      exact running_of_halts halts _
    next => cases taken

/-- The UDP thread is at its loop condition, if there is one. -/
theorem loop_halted (one : OneTransport s) (halt : ProcessesHalt s event)
    (taken : (threadSystem plugin).step s event = some t) (loops : LoopsOn t) :
    t.udp = .atLoop ∧ t.serving .udp = none := by
  simp only [threadSystem] at taken
  cases halt with
  | @client n c j env result present receiving kind parsed halts =>
    dsimp only at taken
    split at taken
    next =>
      obtain ⟨w, -, rfl⟩ := Option.map_eq_some_iff.mp taken
      have running : s.udpRunning = true := loops.1
      cases mode : s.transport with
      | tcp =>
        rw [one.tcp mode] at running
        cases running
      | udp => cases (one.udp mode n).symm.trans present
    next => cases taken
  | udp address port env kind parsed halts =>
    dsimp only at taken
    split at taken
    next allowed =>
      obtain ⟨w, -, rfl⟩ := Option.map_eq_some_iff.mp taken
      simp only [Threads.allows, Bool.and_eq_true] at allowed
      exact ⟨rfl, Option.isNone_iff_eq_none.mp allowed.1.2⟩
    next => cases taken

/-- After a halting result has been processed, no continuation generates or sends a unit
exactly when the state is settled. -/
theorem silent_iff_settled (plugin : TestPlugin σ) (transport : Transport) (p : Producer σ)
    (before : List ThreadEvent) (s t : Threads σ) (event : ThreadEvent)
    (replay : (threadSystem plugin).run (.started transport p) before = some s)
    (halt : ProcessesHalt s event) (taken : (threadSystem plugin).step s event = some t) :
    (∀ continuation, (threadSystem plugin).Along (Quiet plugin) t continuation) ↔
      Settled plugin t := by
  have halted := running_halted halt taken
  constructor
  · intro silent
    exact ⟨fun thread serving => Silent.nothingUnsent silent,
      fun callers distinct all i within job => Silent.handlers silent distinct all i within job,
      fun loops i job =>
        have standing := loop_halted (oneTransport_run replay) halt taken loops
        Silent.loop silent loops standing.1 standing.2 i job⟩
  · intro settled continuation
    exact TransitionSystem.along_of_preserved
      (fun s => s.world.producer.running = false ∧ Settled plugin s)
      (fun _ _ _ holds taken => (settled_step holds.1 holds.2 taken).2)
      (fun _ _ _ holds taken => (settled_step holds.1 holds.2 taken).1) ⟨halted, settled⟩
      continuation

end Halt

/-! ## Two runs -/

def hello : Json := (VersionMessage.mk pcVersion "cons-1").toJson

/-- The archive's password. -/
def found : Json :=
  (ResultMessage.mk "prod-1-0" 0 "cons-1" "success" .null "" (some "pw") none).toJson

/-- The connection comes in front of its recv_frame. -/
def connects (n : Nat) : List ThreadEvent :=
  [.whole (.accept n), .whole (.frame n hello .quiet), .whole (.loopTest n)]

/-- No handler serves or waits for a frame. -/
theorem settled_of_idle {plugin : TestPlugin σ} {s : Threads σ}
    (idle : ∀ thread, s.serving thread = none) (stages : ∀ n, s.isReceiving n = false)
    (udp : s.udp = .returned) (running : s.udpRunning = false) : Settled plugin s := by
  refine ⟨fun thread serving standing => ?_, fun callers _ all i within job => ?_, fun loops => ?_⟩
  · cases (idle thread).symm.trans standing
  · obtain ⟨thread, member⟩ := List.exists_mem_of_length_pos (Nat.zero_lt_of_lt within)
    have can := all thread member
    unfold CanCall at can
    rw [idle] at can
    cases thread with
    | client n => cases (stages n).symm.trans can
    | udp => cases udp.symm.trans can
  · cases running.symm.trans loops.1

/-- The only client goes back to its loop condition and finds running_ cleared. -/
theorem silent_iff_settled_alone :
    ∃ t, (threadSystem createEchoPlugin).run (.started .tcp echoStart)
        (connects 0 ++ [.whole (.frame 0 found .quiet)]) = some t ∧
      ∀ continuation, (threadSystem createEchoPlugin).Along (Quiet createEchoPlugin) t
        continuation := by
  refine ⟨_, rfl, (silent_iff_settled createEchoPlugin .tcp echoStart (connects 0) _ _
    (.whole (.frame 0 found .quiet)) rfl (.client .quiet rfl rfl rfl rfl (.inl ⟨rfl, rfl⟩))
    rfl).mpr (settled_of_idle (fun _ => rfl) (fun n => ?_) rfl rfl)⟩
  cases n <;> rfl

/-- A second client in its recv_frame still gets a unit. -/
theorem waiting_handler_dispatches :
    ¬ ∀ (transport : Transport) (p : Producer EchoState) (before : List ThreadEvent)
      (s t : Threads EchoState) (event : ThreadEvent),
      (threadSystem createEchoPlugin).run (.started transport p) before = some s →
        ProcessesHalt s event → (threadSystem createEchoPlugin).step s event = some t →
          ∀ continuation, (threadSystem createEchoPlugin).Along (Quiet createEchoPlugin) t
            continuation := by
  intro claimed
  have silent : Silent createEchoPlugin _ := claimed .tcp echoStart (connects 0 ++ connects 1)
    _ _ (.whole (.frame 0 found .quiet)) rfl (.client .quiet rfl rfl rfl rfl (.inl ⟨rfl, rfl⟩)) rfl
  exact (silent.called (.client 1) rfl).1 _ _ rfl

end PnC.Guarantees.HaltDispatch
