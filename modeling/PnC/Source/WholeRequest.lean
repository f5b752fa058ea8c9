import PnC.Source.ThreadSteps

/-!
# Requests that are not interrupted

A thread whose accesses follow one another at once does with a work request what
`producerSystem` does in one step, as long as its next_unit ends. The ids that were
generated for a connection are kept there only.
-/
namespace PnC.Source

open PnC.Library

variable {σ : Type} {plugin : TestPlugin σ} {s t : Threads σ} {thread : ThreadId}

/-! ## Accesses one after the other -/

theorem afterAccess_self {serving : Serving} (standing : s.serving thread = some serving)
    {d : Dispatching σ} (producer : d.producer = s.world.producer)
    (handler : d.handlers 0 = serving.handler) (sent : d.sent = []) :
    s.afterAccess thread serving.peer d = s := by
  unfold Threads.afterAccess Threads.setServing
  rw [producer, handler, sent]
  have same : Function.update s.serving thread (some ⟨serving.peer, serving.handler⟩) =
      s.serving := by
    rw [Function.update_eq_self_iff]
    exact standing.symm
  dsimp only
  rw [same]
  rfl

theorem afterAccess_afterAccess (s : Threads σ) (thread : ThreadId) (peer : Endpoint)
    (d e : Dispatching σ) :
    (s.afterAccess thread peer d).afterAccess thread peer e =
      s.afterAccess thread peer { e with sent := e.sent ++ d.sent } := by
  simp [Threads.afterAccess, Threads.setServing]

/-- The other handlers and the lists kept for statements do not matter to an access. -/
theorem alone_step {access : Access} {serving : Serving} {d₀ d : Dispatching σ}
    (producer : d₀.producer = s.world.producer) (handler : d₀.handlers 0 = serving.handler)
    (taken : (dispatchSystem plugin).step d₀ access.event = some d) :
    ∃ e, (dispatchSystem plugin).step (s.alone serving) access.event = some e ∧
      e.producer = d.producer ∧ e.handlers 0 = d.handlers 0 ∧ d.sent = e.sent ++ d₀.sent := by
  obtain ⟨p, handlers, recorded, sent⟩ := d₀
  dsimp only at producer handler
  subst producer
  cases access with
  | readSeq timestamp =>
    simp only [Access.event, dispatchSystem, Threads.alone, handler] at taken ⊢
    split at taken
    next top =>
      cases taken
      exact ⟨_, rfl, rfl, by simp [Dispatching.setPhase, Dispatching.setHandler, handler], rfl⟩
    next => cases taken
  | nextUnit =>
    simp only [Access.event, dispatchSystem, Threads.alone, handler] at taken ⊢
    split at taken
    next msg ready =>
      cases taken
      refine ⟨_, rfl, ?_⟩
      cases plugin.nextUnit s.world.producer.plugin <;>
        simp [Dispatching.afterNextUnit, Dispatching.setPhase, Dispatching.setHandler,
          Dispatching.setProducer, Dispatching.endLoop, handler]
    next => cases taken
  | addPending | markSent | incrementSeq =>
    simp only [Access.event, dispatchSystem, Threads.alone, handler] at taken ⊢
    split at taken
    next =>
      cases taken
      exact ⟨_, rfl, rfl, by simp [Dispatching.setPhase, Dispatching.setHandler,
        Dispatching.setProducer, handler], rfl⟩
    next => cases taken
  | send ok =>
    simp only [Access.event, dispatchSystem, Threads.alone, handler] at taken ⊢
    split at taken
    next =>
      cases ok <;> cases taken <;>
        exact ⟨_, rfl, rfl, by simp [Dispatching.setHandler, Dispatching.endLoop, handler], rfl⟩
    next => cases taken

theorem run_accesses {accesses : List Access} {serving : Serving} {d₀ d : Dispatching σ}
    (standing : s.serving thread = some serving) (producer : d₀.producer = s.world.producer)
    (handler : d₀.handlers 0 = serving.handler)
    (possible : ∀ access ∈ accesses, ¬ (thread = .udp ∧ access = .send false))
    (replay : (dispatchSystem plugin).run d₀ (accesses.map Access.event) = some d) :
    ∃ e, (threadSystem plugin).run s (accesses.map (.access thread)) =
        some (s.afterAccess thread serving.peer e) ∧
      e.producer = d.producer ∧ e.handlers 0 = d.handlers 0 ∧ d.sent = e.sent ++ d₀.sent := by
  induction accesses generalizing s serving d₀ with
  | nil =>
    cases replay
    have same := afterAccess_self (d := { d with sent := [] }) standing producer handler rfl
    exact ⟨_, congrArg some same.symm, rfl, rfl, rfl⟩
  | cons access rest ih =>
    rw [List.map_cons] at replay ⊢
    obtain ⟨d₁, taken, later⟩ := TransitionSystem.run_cons_some replay
    obtain ⟨e₁, alone, producer₁, handler₁, sent₁⟩ := alone_step producer handler taken
    have stepped := step_access_of standing (possible access List.mem_cons_self) alone
    obtain ⟨e, continued, producer₂, handler₂, sent₂⟩ :=
      ih (serving_afterAccess s thread serving.peer e₁) producer₁.symm handler₁.symm
        (fun other member => possible other (List.mem_cons_of_mem access member)) later
    refine ⟨{ e with sent := e.sent ++ e₁.sent }, ?_, producer₂, handler₂, ?_⟩
    · rw [TransitionSystem.run_cons, stepped, Option.bind_some, continued,
        afterAccess_afterAccess]
    · rw [sent₂, sent₁, List.append_assoc]

/-! ## The dispatch loop -/

/-- Where a handler stands behind its dispatch loop. -/
def Handler.Ended (h : Handler) : DispatchEnd → Prop
  | .returned | .sendError => h.remaining = 0 ∧ h.phase = .between
  | .threw _ => h.phase = .left
  | .stuck _ => h.phase = .stuck

/-- The accesses of one iteration. -/
def iteration (timestamp : String) (ok : Bool) : List Access :=
  [.readSeq timestamp, .nextUnit, .addPending, .markSent, .incrementSeq, .send ok]

theorem run_dispatchLoop (plugin : TestPlugin σ) (env : DispatchEnv)
    (sends : thread = .udp → ∀ i, env.sendOk i = true) (peer : Endpoint) (consumerId : String)
    (remaining i : Nat) (s : Threads σ)
    (standing : s.serving thread = some ⟨peer, ⟨consumerId, remaining, .between⟩⟩) :
    ∃ (accesses : List Access) (e : Dispatching σ),
      (threadSystem plugin).run s (accesses.map (.access thread)) =
        some (s.afterAccess thread peer e) ∧
      e.producer = (s.world.producer.dispatchLoop plugin env consumerId remaining i).producer ∧
      e.sent = (s.world.producer.dispatchLoop plugin env consumerId remaining i).sent.reverse ∧
      (e.handlers 0).Ended
        (s.world.producer.dispatchLoop plugin env consumerId remaining i).ended := by
  induction remaining generalizing i s with
  | zero =>
    refine ⟨[], s.alone ⟨peer, ⟨consumerId, 0, .between⟩⟩, ?_, rfl, rfl, rfl, rfl⟩
    exact congrArg some (afterAccess_self standing rfl rfl rfl).symm
  | succ remaining ih =>
    unfold Producer.dispatchLoop
    have quiet : ∀ access ∈ [Access.readSeq (env.timestamp i), .nextUnit],
        ¬ (thread = .udp ∧ access = .send false) := by simp
    have refused := Dispatching.run_refused plugin
      (s := s.alone ⟨peer, ⟨consumerId, remaining + 1, .between⟩⟩) (h := 0) rfl (env.timestamp i)
    cases call : plugin.nextUnit s.world.producer.plugin with
    | exhausted state | threw state what | stuck fault =>
      rw [Threads.alone, call] at refused
      obtain ⟨e, run, producer, handler, sent⟩ := run_accesses standing rfl rfl quiet refused
      refine ⟨_, e, run, producer, (List.append_eq_nil_iff.mp sent.symm).1, ?_⟩
      rw [handler]
      first | exact rfl | exact ⟨rfl, rfl⟩
    | unit state job =>
      have body := Dispatching.run_bodyEvents
        (s := s.alone ⟨peer, ⟨consumerId, remaining + 1, .between⟩⟩) (h := 0) rfl call
        (env.timestamp i) (env.sendOk i)
      have possible : ∀ access ∈ iteration (env.timestamp i) (env.sendOk i),
          ¬ (thread = .udp ∧ access = .send false) := by
        intro access member refused
        rw [refused.2] at member
        simp [iteration, sends refused.1 i] at member
      obtain ⟨e₁, run₁, producer₁, handler₁, sent₁⟩ :=
        run_accesses standing rfl rfl possible body
      cases ok : env.sendOk i with
      | false =>
        rw [ok] at run₁ producer₁ handler₁ sent₁
        refine ⟨_, e₁, run₁, producer₁, (List.append_eq_nil_iff.mp sent₁.symm).1, ?_⟩
        rw [handler₁]
        exact ⟨rfl, rfl⟩
      | true =>
        rw [ok] at run₁ producer₁ handler₁ sent₁
        have standing₁ : (s.afterAccess thread peer e₁).serving thread =
            some ⟨peer, ⟨consumerId, remaining, .between⟩⟩ := by
          rw [serving_afterAccess, handler₁]
          rfl
        obtain ⟨accesses, e, run, producer, sent, ended⟩ := ih (i + 1) _ standing₁
        have recorded : (s.afterAccess thread peer e₁).world.producer =
            s.world.producer.recordUnit state
              (s.world.producer.unitMessage (env.timestamp i) job) consumerId := producer₁
        rw [recorded] at producer sent ended
        refine ⟨iteration (env.timestamp i) true ++ accesses,
          { e with sent := e.sent ++ e₁.sent }, ?_, producer, ?_, ended⟩
        · rw [List.map_append, TransitionSystem.run_append, run₁, Option.bind_some, run,
            afterAccess_afterAccess]
        · have first : e₁.sent = [s.world.producer.unitMessage (env.timestamp i) job] :=
            (List.append_nil _).symm.trans sent₁.symm
          dsimp only
          rw [first, sent]
          exact List.reverse_cons.symm

/-! ## A request -/

theorem dispatchLoop_ends (ends : ∀ state fault, plugin.nextUnit state ≠ .stuck fault)
    (env : DispatchEnv) (consumerId : String) (remaining i : Nat) (p : Producer σ)
    (fault : Fault) : (p.dispatchLoop plugin env consumerId remaining i).ended ≠ .stuck fault := by
  induction remaining generalizing i p with
  | zero => exact nofun
  | succ remaining ih =>
    unfold Producer.dispatchLoop
    split
    next => exact nofun
    next => exact nofun
    next fault call => exact absurd call (ends _ fault)
    next state job call =>
      dsimp only
      split
      · exact ih _ _
      · exact nofun

theorem step_leave_of_ended (plugin : TestPlugin σ) {serving : Serving} {ended : DispatchEnd}
    (standing : s.serving thread = some serving) (done : serving.handler.Ended ended)
    (ends : ∀ fault, ended ≠ .stuck fault) :
    (threadSystem plugin).step s (.leave thread) =
      some (s.leave thread (World.stageAfter ended)) := by
  obtain ⟨peer, consumerId, remaining, phase⟩ := serving
  cases ended with
  | returned | sendError =>
    obtain ⟨none, between⟩ := done
    cases none
    cases between
    simp only [threadSystem, standing, World.stageAfter]
  | threw what =>
    cases done
    simp only [threadSystem, standing, World.stageAfter]
  | stuck fault => exact absurd rfl (ends fault)

theorem world_leave_client {n : Nat} {c : Connection} (present : s.world.connections n = some c)
    (stage : Stage) :
    (s.leave (.client n) stage).world = s.world.setConnection n { c with stage := stage } := by
  unfold Threads.leave
  dsimp only [Threads.setServing]
  rw [present]

theorem msgType_of_isRequest {j : Json} (request : isRequest j = true) :
    msgType j = .ok "work_request" := by
  unfold isRequest at request
  split at request
  next kind => exact kind
  next => cases request

/-- The world in front of the dispatch loop of a client handler. -/
theorem world_requestFrame (s : Threads σ) (n : Nat) (c : Connection) {j : Json}
    {req : WorkRequestMessage} (parsed : WorkRequestMessage.fromJson j = .ok req) :
    (s.requestFrame n c j).world =
      ((s.world.receive (.tcp n) j).setProducer
        ((if c.consumerId = "" then
          s.world.producer.registerConsumer req.consumerId n s.world.clock
        else s.world.producer).updateConsumerActivity req.consumerId s.world.clock)).setConnection n
      { c with consumerId := req.consumerId } := by
  unfold Threads.requestFrame
  rw [parsed]
  rfl

theorem loopFrame_request (plugin : TestPlugin σ) (w : World σ) (n : Nat) (c : Connection)
    {j : Json} (env : HandlerEnv) {req : WorkRequestMessage} (request : isRequest j = true)
    (parsed : WorkRequestMessage.fromJson j = .ok req) :
    w.loopFrame plugin n c j env = (w.receive (.tcp n) j).requestFrame plugin n c req env := by
  simp only [World.loopFrame, msgType_of_isRequest request, parsed]

/-- The frame of a work request, taken without interruption. -/
theorem request_uninterrupted (plugin : TestPlugin σ)
    (ends : ∀ state fault, plugin.nextUnit state ≠ .stuck fault) (env : HandlerEnv) {n : Nat}
    {c : Connection} {j : Json} (present : s.world.connections n = some c)
    (receiving : c.stage = .receiving) (free : s.serving (.client n) = none)
    (request : isRequest j = true) :
    ∃ events t after, (threadSystem plugin).run s (.request n j :: events) = some t ∧
      t.serving (.client n) = none ∧
      (s.world.loopFrame plugin n c j env).connections n = some after ∧
      t.world = (s.world.loopFrame plugin n c j env).setConnection n
        { after with generated := c.generated } := by
  have entered : (threadSystem plugin).step s (.request n j) = some (s.requestFrame n c j) := by
    simp only [threadSystem, present, free]
    exact if_pos ⟨receiving, request⟩
  cases parsed : WorkRequestMessage.fromJson j with
  | error what =>
    refine ⟨[], _, { c with stage := .leaving }, TransitionSystem.run_single entered, ?_⟩
    simp only [Threads.requestFrame, World.loopFrame, msgType_of_isRequest request, parsed]
    refine ⟨free, Function.update_self .., ?_⟩
    simp [World.setConnection]
  | ok req =>
    have standing := (congrFun (serving_requestFrame s n c parsed) (.client n)).trans
      (Function.update_self ..)
    obtain ⟨accesses, e, run, producer, sent, done⟩ := run_dispatchLoop plugin env.toDispatchEnv
      (fun same => absurd same (client_ne_udp n)) (.tcp n) req.consumerId
      req.threadsAvailable.toNat 0 (s.requestFrame n c j) standing
    have world := world_requestFrame s n c parsed
    generalize s.requestFrame n c j = began at *
    have left := step_leave_of_ended plugin (serving_afterAccess began (.client n) (.tcp n) e)
      done (dispatchLoop_ends ends _ _ _ _ _)
    have there : (began.afterAccess (.client n) (.tcp n) e).world.connections n =
        some { c with consumerId := req.consumerId } := by
      dsimp only [Threads.afterAccess, Threads.setServing]
      rw [world]
      exact Function.update_self ..
    rw [loopFrame_request plugin s.world n c env request parsed]
    refine ⟨_, _, _, TransitionSystem.run_after entered (TransitionSystem.run_snoc run left),
      ?_, Function.update_self .., ?_⟩
    · rw [serving_leave]
      exact Function.update_self ..
    · rw [world_leave_client there]
      dsimp only [Threads.afterAccess, Threads.setServing]
      rw [producer, sent, world]
      simp [World.requestFrame, World.setConnection, World.setProducer, World.afterDispatch,
        World.receive, Producer.handleWorkRequest]

/-- The world in front of the dispatch loop of the UDP thread. -/
theorem world_requestDatagram (s : Threads σ) (address : String) (port : Nat) {j : Json}
    {req : WorkRequestMessage} (parsed : WorkRequestMessage.fromJson j = .ok req) :
    (s.requestDatagram address port j).world =
      (s.world.receive (.udp address port) j).setProducer
        (s.world.producer.updateConsumerActivity req.consumerId s.world.clock) := by
  unfold Threads.requestDatagram
  rw [parsed]
  rfl

/-- The datagram of a work request, taken without interruption. -/
theorem requestUdp_uninterrupted (plugin : TestPlugin σ)
    (ends : ∀ state fault, plugin.nextUnit state ≠ .stuck fault) (env : HandlerEnv)
    {address : String} {port : Nat} {j : Json} (receiving : s.udp = .receiving)
    (free : s.serving .udp = none) (request : isRequest j = true) :
    ∃ events t, (threadSystem plugin).run s (.requestUdp address port j :: events) = some t ∧
      t.serving .udp = none ∧ t.udp = .atLoop ∧
      t.world = s.world.handleUdpMessage plugin address port j env := by
  have entered : (threadSystem plugin).step s (.requestUdp address port j) =
      some (s.requestDatagram address port j) := by
    simp only [threadSystem, receiving, free]
    exact if_pos request
  have kind := msgType_of_isRequest request
  cases parsed : WorkRequestMessage.fromJson j with
  | error what =>
    refine ⟨[], _, TransitionSystem.run_single entered, ?_⟩
    simp only [Threads.requestDatagram, World.handleUdpMessage, kind, parsed]
    exact ⟨free, trivial, trivial⟩
  | ok req =>
    have standing := (congrFun (serving_requestDatagram s address port parsed) .udp).trans
      (Function.update_self ..)
    obtain ⟨accesses, e, run, producer, sent, done⟩ := run_dispatchLoop plugin
      ⟨env.timestamp, fun _ => true⟩ (fun _ _ => rfl) (.udp address port) req.consumerId
      req.threadsAvailable.toNat 0 (s.requestDatagram address port j) standing
    have world := world_requestDatagram s address port parsed
    generalize s.requestDatagram address port j = began at *
    have left := step_leave_of_ended plugin (serving_afterAccess began .udp (.udp address port) e)
      done (dispatchLoop_ends ends _ _ _ _ _)
    refine ⟨_, _, TransitionSystem.run_after entered (TransitionSystem.run_snoc run left),
      ?_, udp_leave _ .udp _, ?_⟩
    · rw [serving_leave]
      exact Function.update_self ..
    · simp only [World.handleUdpMessage, kind, parsed]
      dsimp only [Threads.leave, Threads.afterAccess, Threads.setServing]
      rw [producer, sent, world]
      simp [World.afterDispatch, World.setProducer, World.receive, Producer.handleUdpWorkRequest,
        Producer.handleWorkRequest]

end PnC.Source
