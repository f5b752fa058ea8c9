import Mathlib.Logic.Relation
import PnC.Library.Decimal
import PnC.Source.ProducerRun

/-!
# What a step does to the producer

What each event does to the world is said once (`world_step`). Every step of a run changes
the producer by a sequence of a few kinds of change (`producer_steps`). An invariant of the producer alone is proved once for each kind
and then holds in every state of every run (`producer_invariant`).
-/
namespace PnC.Source

open PnC.Library

variable {σ : Type}

/-- The changes that a thread makes; `peer` is the connection it serves, if any. -/
inductive ProducerStep (plugin : TestPlugin σ) (peer : Option Nat) :
    Producer σ → Producer σ → Prop where
  /-- a unit is generated and recorded -/
  | unit {p : Producer σ} {state : σ} {job : Json} (timestamp consumerId : String)
      (call : plugin.nextUnit p.plugin = .unit state job) :
      ProducerStep plugin peer p (p.recordUnit state (p.unitMessage timestamp job) consumerId)
  /-- next_unit returns false or throws -/
  | refused {p : Producer σ} {state : σ}
      (call : plugin.nextUnit p.plugin = .exhausted state ∨
        ∃ what, plugin.nextUnit p.plugin = .threw state what) :
      ProducerStep plugin peer p { p with plugin := state }
  | result {p : Producer σ} (msg : ResultMessage) : ProducerStep plugin peer p (p.handleResult msg)
  | reclaim {p : Producer σ} (consumerId : String) :
      ProducerStep plugin peer p (p.reclaimConsumer consumerId)
  | register {p : Producer σ} {socket : Nat} (consumerId : String) (now : Nat)
      (own : peer = some socket) :
      ProducerStep plugin peer p (p.registerConsumer consumerId socket now)
  | registerUdp {p : Producer σ} (consumerId address : String) (port now : Nat) :
      ProducerStep plugin peer p (p.registerConsumerUdp consumerId address port now)
  | touch {p : Producer σ} (consumerId : String) (now : Nat) :
      ProducerStep plugin peer p (p.updateConsumerActivity consumerId now)
  | unregister {p : Producer σ} (consumerId : String) :
      ProducerStep plugin peer p (p.unregisterConsumer consumerId)
  | stop {p : Producer σ} : ProducerStep plugin peer p { p with running := false }

abbrev ProducerSteps (plugin : TestPlugin σ) (peer : Option Nat) :
    Producer σ → Producer σ → Prop :=
  Relation.ReflTransGen (ProducerStep plugin peer)

/-- A dispatch loop records units until the plugin refuses one. -/
theorem steps_dispatchLoop (plugin : TestPlugin σ) (peer : Option Nat) (env : DispatchEnv)
    (consumerId : String) (remaining i : Nat) (p : Producer σ) :
    ProducerSteps plugin peer p (p.dispatchLoop plugin env consumerId remaining i).producer := by
  induction remaining generalizing i p with
  | zero => exact .refl
  | succ remaining ih =>
    unfold Producer.dispatchLoop
    split
    next state call => exact .single (.refused (Or.inl call))
    next state what call => exact .single (.refused (Or.inr ⟨what, call⟩))
    next => exact .refl
    next state job call =>
      have recorded : ProducerStep plugin peer p _ := .unit (env.timestamp i) consumerId call
      split
      · exact .head recorded (ih _ _)
      · exact .single recorded

/-- What the recording of a unit for the consumer keeps, a dispatch loop for it keeps. -/
theorem dispatchLoop_preserves (plugin : TestPlugin σ) (env : DispatchEnv) (consumerId : String)
    (inv : Producer σ → Prop)
    (refused : ∀ (p : Producer σ) (state : σ), inv p → inv { p with plugin := state })
    (recorded : ∀ (p : Producer σ) (state : σ) (timestamp : String) (job : Json),
      plugin.nextUnit p.plugin = .unit state job → inv p →
        inv (p.recordUnit state (p.unitMessage timestamp job) consumerId))
    (remaining i : Nat) {p : Producer σ} (start : inv p) :
    inv (p.dispatchLoop plugin env consumerId remaining i).producer := by
  induction remaining generalizing i p with
  | zero => exact start
  | succ remaining ih =>
    unfold Producer.dispatchLoop
    split
    next state _ => exact refused p state start
    next state _ _ => exact refused p state start
    next => exact start
    next state job call =>
      have kept := recorded p state (env.timestamp i) job call start
      split
      · exact ih (i + 1) kept
      · exact kept

namespace World

variable {plugin : TestPlugin σ}

theorem steps_handshakeFrame (w : World σ) (n : Nat) (c : Connection) (j : Json) (env : HandlerEnv) :
    ProducerSteps plugin (some n) w.producer (w.handshakeFrame n c j env).producer := by
  unfold handshakeFrame
  split
  next => exact .refl
  next =>
    split
    next => exact .refl
    next ver _ =>
      split
      · split
        · exact .refl
        · exact .single (.register _ _ rfl)
      · exact .refl
  next => exact .refl

theorem steps_requestFrame (w : World σ) (n : Nat) (c : Connection) (req : WorkRequestMessage)
    (env : HandlerEnv) :
    ProducerSteps plugin (some n) w.producer (w.requestFrame plugin n c req env).producer := by
  have adopted : ProducerSteps plugin (some n) w.producer
      (if c.consumerId = "" then w.producer.registerConsumer req.consumerId n w.clock
        else w.producer) := by
    split
    · exact .single (.register _ _ rfl)
    · exact .refl
  exact (adopted.tail (.touch ..)).trans (steps_dispatchLoop plugin ..)

theorem steps_adopt (w : World σ) (n : Nat) (c : Connection) (consumerId : String) :
    ProducerSteps plugin (some n) w.producer (w.adopt n c consumerId) := by
  unfold adopt
  split
  · exact .single (.register _ _ rfl)
  · exact .refl

theorem steps_resultFrame (w : World σ) (n : Nat) (c : Connection) (result : ResultMessage) :
    ProducerSteps plugin (some n) w.producer (w.resultFrame n c result).producer :=
  ((steps_adopt w n c result.consumerId).tail (.touch ..)).tail (.result result)

theorem steps_heartbeatFrame (w : World σ) (n : Nat) (c : Connection) (hb : HeartbeatMessage) :
    ProducerSteps plugin (some n) w.producer (w.heartbeatFrame n c hb).producer :=
  (steps_adopt w n c hb.consumerId).tail (.touch ..)

theorem steps_loopFrame (w : World σ) (n : Nat) (c : Connection) (j : Json) (env : HandlerEnv) :
    ProducerSteps plugin (some n) w.producer (w.loopFrame plugin n c j env).producer := by
  unfold loopFrame
  split
  next => exact .refl
  next =>
    split
    next => exact .refl
    next req _ => exact steps_requestFrame (w.receive (.tcp n) j) n c req env
  next =>
    split
    next => exact .refl
    next result _ => exact steps_resultFrame (w.receive (.tcp n) j) n c result
  next =>
    split
    next => exact .refl
    next hb _ => exact steps_heartbeatFrame (w.receive (.tcp n) j) n c hb
  next => exact .refl

theorem steps_handleUdpMessage (w : World σ) (address : String) (port : Nat) (j : Json)
    (env : HandlerEnv) :
    ProducerSteps plugin none w.producer (w.handleUdpMessage plugin address port j env).producer := by
  unfold handleUdpMessage
  split
  next => exact .refl
  next =>
    split
    next => exact .refl
    next =>
      split
      · exact .refl
      · exact .single (.registerUdp ..)
  next =>
    split
    next => exact .refl
    next => exact .head (.touch ..) (steps_dispatchLoop plugin ..)
  next =>
    split
    next => exact .refl
    next result _ => exact .head (.touch ..) (.single (.result result))
  next =>
    split
    next => exact .refl
    next => exact .single (.touch ..)
  next => exact .refl

/-- An eviction takes back the consumer's units, removes its entry and may close one
connection; it does nothing else. -/
theorem evict_cases {w after : World σ} {consumerId : String}
    (evicted : w.evict consumerId = some after) :
    after = w.setProducer ((w.producer.reclaimConsumer consumerId).unregisterConsumer consumerId) ∨
      ∃ n c, w.connections n = some c ∧
        after = (w.setProducer ((w.producer.reclaimConsumer consumerId).unregisterConsumer
          consumerId)).setConnection n { c with isOpen := false } := by
  unfold evict at evicted
  split at evicted
  next => cases evicted
  next =>
    split at evicted
    next =>
      cases evicted
      exact Or.inl rfl
    next n _ =>
      split at evicted
      next => cases evicted
      next c present =>
        split at evicted
        · cases evicted
        · cases evicted
          exact Or.inr ⟨n, c, present, rfl⟩

theorem producer_evict {w after : World σ} {consumerId : String}
    (evicted : w.evict consumerId = some after) :
    after.producer = (w.producer.reclaimConsumer consumerId).unregisterConsumer consumerId := by
  obtain rfl | ⟨n, c, -, rfl⟩ := evict_cases evicted
  · rfl
  · rfl

theorem steps_evict {w after : World σ} {consumerId : String}
    (evicted : w.evict consumerId = some after) :
    ProducerSteps plugin none w.producer after.producer := by
  rw [producer_evict evicted]
  exact .head (.reclaim consumerId) (.single (.unregister consumerId))

end World

/-- What each event does to the world, and when it can happen. -/
inductive WorldStep (plugin : TestPlugin σ) (w : World σ) : Event → World σ → Prop where
  | accept (n : Nat) (absent : w.connections n = none) :
      WorldStep plugin w (.accept n) (w.setConnection n ⟨.handshake, "", true, none, []⟩)
  | handshake (n : Nat) (c : Connection) (j : Json) (env : HandlerEnv)
      (present : w.connections n = some c) (stage : c.stage = .handshake) :
      WorldStep plugin w (.frame n j env) (w.handshakeFrame n c j env)
  | inLoop (n : Nat) (c : Connection) (j : Json) (env : HandlerEnv)
      (present : w.connections n = some c) (stage : c.stage = .receiving) :
      WorldStep plugin w (.frame n j env) (w.loopFrame plugin n c j env)
  | broken (n : Nat) (c : Connection) (present : w.connections n = some c)
      (stage : c.stage = .handshake ∨ c.stage = .receiving) :
      WorldStep plugin w (.broken n) (w.setConnection n { c with stage := .leaving })
  | loopTest (n : Nat) (c : Connection) (present : w.connections n = some c)
      (stage : c.stage = .atLoop) :
      WorldStep plugin w (.loopTest n) (w.setConnection n
        { c with stage := if w.producer.running && c.isOpen then .receiving else .leaving })
  | reclaim (n : Nat) (c : Connection) (present : w.connections n = some c)
      (stage : c.stage = .leaving) :
      WorldStep plugin w (.reclaim n) ((w.setProducer
        (if c.consumerId = "" then w.producer
          else w.producer.reclaimConsumer c.consumerId)).setConnection n
            { c with stage := .reclaimed })
  | unregister (n : Nat) (c : Connection) (present : w.connections n = some c)
      (stage : c.stage = .reclaimed) :
      WorldStep plugin w (.unregister n) ((w.setProducer
        (if c.consumerId = "" then w.producer
          else w.producer.unregisterConsumer c.consumerId)).setConnection n
            { c with stage := .returned, isOpen := false })
  | datagram (address : String) (port : Nat) (j : Json) (env : HandlerEnv) :
      WorldStep plugin w (.datagram address port j env)
        (w.handleUdpMessage plugin address port j env)
  | tick : WorldStep plugin w .tick { w with clock := w.clock + 1 }
  | monitorScan (idle : w.stale = []) :
      WorldStep plugin w .monitorScan { w with stale := w.staleIds }
  | monitorEvict (consumerId : String) (rest : List String) (after : World σ)
      (stale : w.stale = consumerId :: rest)
      (evicted : { w with stale := rest }.evict consumerId = some after) :
      WorldStep plugin w .monitorEvict after
  | stop : WorldStep plugin w .stop (w.setProducer { w.producer with running := false })

theorem world_step {plugin : TestPlugin σ} {w after : World σ} {event : Event}
    (taken : (producerSystem plugin).step w event = some after) :
    WorldStep plugin w event after := by
  cases event with
  | accept n =>
    simp only [producerSystem] at taken
    split at taken
    next => cases taken
    next absent =>
      cases taken
      exact .accept n absent
  | frame n j env =>
    simp only [producerSystem] at taken
    split at taken
    next => cases taken
    next c present =>
      split at taken
      next stage =>
        cases taken
        exact .handshake n c j env present stage
      next stage =>
        cases taken
        exact .inLoop n c j env present stage
      next => cases taken
  | broken n =>
    simp only [producerSystem] at taken
    split at taken
    next => cases taken
    next c present =>
      split at taken
      next stage =>
        cases taken
        exact .broken n c present stage
      next => cases taken
  | loopTest n =>
    simp only [producerSystem] at taken
    split at taken
    next => cases taken
    next c present =>
      split at taken
      next stage =>
        cases taken
        exact .loopTest n c present stage
      next => cases taken
  | reclaim n =>
    simp only [producerSystem] at taken
    split at taken
    next => cases taken
    next c present =>
      split at taken
      next stage =>
        cases taken
        exact .reclaim n c present stage
      next => cases taken
  | unregister n =>
    simp only [producerSystem] at taken
    split at taken
    next => cases taken
    next c present =>
      split at taken
      next stage =>
        cases taken
        exact .unregister n c present stage
      next => cases taken
  | datagram address port j env =>
    cases taken
    exact .datagram address port j env
  | tick =>
    cases taken
    exact .tick
  | monitorScan =>
    simp only [producerSystem] at taken
    split at taken
    next idle =>
      cases taken
      exact .monitorScan idle
    next => cases taken
  | monitorEvict =>
    simp only [producerSystem] at taken
    split at taken
    next => cases taken
    next consumerId rest stale => exact .monitorEvict consumerId rest after stale taken
  | stop =>
    cases taken
    exact .stop

/-- Every step of a run is a sequence of these changes, made for its own connection. -/
theorem producer_steps {plugin : TestPlugin σ} {w after : World σ} {event : Event}
    (taken : (producerSystem plugin).step w event = some after) :
    ProducerSteps plugin event.connection w.producer after.producer := by
  cases world_step taken with
  | accept | broken | loopTest | tick | monitorScan => exact .refl
  | handshake n c j env => exact World.steps_handshakeFrame w n c j env
  | inLoop n c j env => exact World.steps_loopFrame w n c j env
  | reclaim n c =>
    simp only [World.setConnection]
    split
    · exact .refl
    · exact .single (.reclaim _)
  | unregister n c =>
    simp only [World.setConnection]
    split
    · exact .refl
    · exact .single (.unregister _)
  | datagram address port j env => exact World.steps_handleUdpMessage w address port j env
  | monitorEvict consumerId rest _ stale evicted =>
    exact World.steps_evict (w := { w with stale := rest }) evicted
  | stop => exact .single .stop

/-! ## What a step does to the connections -/

namespace World

theorem handshakeFrame_elsewhere (w : World σ) {n m : Nat} (other : m ≠ n) (c : Connection)
    (j : Json) (env : HandlerEnv) :
    (w.handshakeFrame n c j env).connections m = w.connections m := by
  unfold handshakeFrame
  split
  next => exact Function.update_of_ne other _ _
  next =>
    split
    next => exact Function.update_of_ne other _ _
    next =>
      split
      · split <;> exact Function.update_of_ne other _ _
      · exact Function.update_of_ne other _ _
  next => exact Function.update_of_ne other _ _

theorem loopFrame_elsewhere (plugin : TestPlugin σ) (w : World σ) {n m : Nat} (other : m ≠ n)
    (c : Connection) (j : Json) (env : HandlerEnv) :
    (w.loopFrame plugin n c j env).connections m = w.connections m := by
  unfold loopFrame
  split
  next => exact Function.update_of_ne other _ _
  next => split <;> exact Function.update_of_ne other _ _
  next => split <;> exact Function.update_of_ne other _ _
  next => split <;> exact Function.update_of_ne other _ _
  next => exact Function.update_of_ne other _ _

theorem connections_handleUdpMessage (plugin : TestPlugin σ) (w : World σ) (address : String)
    (port : Nat) (j : Json) (env : HandlerEnv) :
    (w.handleUdpMessage plugin address port j env).connections = w.connections := by
  unfold handleUdpMessage
  split
  next => rfl
  next =>
    split
    next => rfl
    next => split <;> rfl
  next => split <;> rfl
  next => split <;> rfl
  next => split <;> rfl
  next => rfl

theorem connections_evict {w after : World σ} {consumerId : String}
    (evicted : w.evict consumerId = some after) (m : Nat) :
    after.connections m = w.connections m ∨
      ∃ c, w.connections m = some c ∧ after.connections m = some { c with isOpen := false } := by
  obtain rfl | ⟨n, c, present, rfl⟩ := evict_cases evicted
  · exact Or.inl rfl
  · by_cases same : m = n
    · rw [same]
      exact Or.inr ⟨c, present, Function.update_self ..⟩
    · exact Or.inl (Function.update_of_ne same _ _)

end World

/-- A thread changes its own connection only, but that the monitor may close one. -/
theorem connections_step {plugin : TestPlugin σ} {w after : World σ} {event : Event} {n : Nat}
    (foreign : event.connection ≠ some n)
    (taken : (producerSystem plugin).step w event = some after) :
    after.connections n = w.connections n ∨
      ∃ c, w.connections n = some c ∧ after.connections n = some { c with isOpen := false } := by
  have other {m : Nat} (own : event.connection = some m) : n ≠ m := by
    intro same
    rw [same] at foreign
    exact foreign own
  cases world_step taken with
  | accept m => exact Or.inl (Function.update_of_ne (other rfl) _ _)
  | handshake m c j env => exact Or.inl (World.handshakeFrame_elsewhere w (other rfl) c j env)
  | inLoop m c j env => exact Or.inl (World.loopFrame_elsewhere plugin w (other rfl) c j env)
  | broken m | loopTest m | reclaim m | unregister m =>
    exact Or.inl (Function.update_of_ne (other rfl) _ _)
  | datagram address port j env =>
    exact Or.inl (congrFun (World.connections_handleUdpMessage plugin w address port j env) n)
  | tick | monitorScan | stop => exact Or.inl rfl
  | monitorEvict consumerId rest _ stale evicted => exact World.connections_evict evicted n

/-! ## Invariants of the producer -/

/-- An invariant that every kind of change keeps holds in every state of every run. -/
theorem producer_invariant {plugin : TestPlugin σ} (inv : Producer σ → Prop)
    (preserved : ∀ peer p q, inv p → ProducerStep plugin peer p q → inv q) {w final : World σ}
    {events : List Event} (start : inv w.producer)
    (replay : (producerSystem plugin).run w events = some final) : inv final.producer := by
  refine TransitionSystem.run_preserves (fun w => inv w.producer) ?_ start replay
  intro w event after holds taken
  have steps := producer_steps taken
  generalize after.producer = q at steps
  induction steps with
  | refl => exact holds
  | tail _ step ih => exact preserved _ _ _ ih step

/-! ## Numbered units -/

theorem Producer.unitId_injective (p : Producer σ) {m n : Int} (same : p.unitId m = p.unitId n) :
    m = n := by
  unfold Producer.unitId at same
  have tails := congrArg String.toList same
  simp only [String.toList_append, List.append_cancel_left_eq] at tails
  exact toString_int_injective (String.toList_inj.mp tails)

/-- Every tracked unit has a number below next_seq_, and its id shows it. -/
def Numbered (p : Producer σ) : Prop :=
  ∀ id e, p.tracker.find id = some e → ∃ n < p.nextSeq, id = p.unitId n

/-- The next id is not in use. -/
theorem Numbered.fresh {p : Producer σ} (numbered : Numbered p) :
    p.tracker.find (p.unitId p.nextSeq) = none := by
  cases found : p.tracker.find (p.unitId p.nextSeq) with
  | none => rfl
  | some e =>
    obtain ⟨n, below, same⟩ := numbered _ e found
    have equal := p.unitId_injective same
    omega

/-- The entry of the unit that recordUnit adds, and the entries of the others. -/
theorem find_recordUnit (p : Producer σ) (state : σ) (timestamp consumerId queried : String)
    (job : Json) :
    (p.recordUnit state (p.unitMessage timestamp job) consumerId).tracker.find queried =
      if queried = p.unitId p.nextSeq then
        some (WorkTracker.toSent consumerId (Producer.pendingEntry (p.unitMessage timestamp job)))
      else p.tracker.find queried := by
  unfold Producer.recordUnit
  rw [WorkTracker.find_markSent, WorkTracker.find_addPending, WorkTracker.find_addPending,
    Producer.workUnitId_pendingEntry, Producer.workUnitId_unitMessage, if_pos rfl]
  by_cases same : queried = p.unitId p.nextSeq
  · rw [if_pos same, if_pos same]
    rfl
  · rw [if_neg same, if_neg same, if_neg same]

/-- A result changes one entry in place. -/
theorem find_handleResult (p : Producer σ) (result : ResultMessage) (queried : String) :
    (p.handleResult result).tracker.find queried =
      if queried = result.workUnitId then
        (p.tracker.find result.workUnitId).map
          (if result.status = "success" then WorkTracker.toCompleted else WorkTracker.toPending)
      else p.tracker.find queried := by
  unfold Producer.handleResult
  by_cases success : result.status = "success"
  · simp only [if_pos success]
    rw [← WorkTracker.find_markCompleted]
    cases result.foundPassword <;> rfl
  · simp only [if_neg success]
    rw [← WorkTracker.find_markFailed]
    cases result.fileError <;> rfl

/-- What a result leaves alone. -/
theorem frame_handleResult (p : Producer σ) (result : ResultMessage) :
    (p.handleResult result).nextSeq = p.nextSeq ∧
      (p.handleResult result).producerId = p.producerId ∧
      (p.handleResult result).plugin = p.plugin ∧
      (p.handleResult result).connectedConsumers = p.connectedConsumers := by
  unfold Producer.handleResult
  by_cases success : result.status = "success"
  · simp only [if_pos success]
    cases result.foundPassword <;> exact ⟨rfl, rfl, rfl, rfl⟩
  · simp only [if_neg success]
    cases result.fileError <;> exact ⟨rfl, rfl, rfl, rfl⟩

theorem totalGenerated_handleResult (p : Producer σ) (result : ResultMessage) :
    (p.handleResult result).totalGenerated = p.totalGenerated := by
  unfold Producer.handleResult
  by_cases success : result.status = "success"
  · simp only [if_pos success]
    cases result.foundPassword <;> rfl
  · simp only [if_neg success]
    cases result.fileError <;> rfl

theorem find_reclaimConsumer (p : Producer σ) (consumerId queried : String) :
    (p.reclaimConsumer consumerId).tracker.find queried =
      (p.tracker.find queried).map (WorkTracker.reclaim consumerId) :=
  WorkTracker.find_getFailedForConsumer ..

theorem numbered_step {plugin : TestPlugin σ} (peer : Option Nat) (p q : Producer σ)
    (numbered : Numbered p) (step : ProducerStep plugin peer p q) : Numbered q := by
  intro id e found
  cases step with
  | @unit state job timestamp consumerId call =>
    rw [find_recordUnit] at found
    by_cases new : id = p.unitId p.nextSeq
    · exact ⟨p.nextSeq, by simp only [Producer.recordUnit]; omega, new⟩
    · rw [if_neg new] at found
      obtain ⟨n, below, same⟩ := numbered id e found
      exact ⟨n, by simp only [Producer.recordUnit]; omega, same⟩
  | refused call => exact numbered id e found
  | result msg =>
    obtain ⟨seq, name, -⟩ := frame_handleResult p msg
    have known : ∃ old, p.tracker.find id = some old := by
      rw [find_handleResult] at found
      by_cases here : id = msg.workUnitId
      · rw [if_pos here] at found
        obtain ⟨old, present, -⟩ := Option.map_eq_some_iff.mp found
        exact ⟨old, here ▸ present⟩
      · rw [if_neg here] at found
        exact ⟨e, found⟩
    obtain ⟨old, present⟩ := known
    obtain ⟨n, below, same⟩ := numbered id old present
    exact ⟨n, by rw [seq]; exact below, by rw [Producer.unitId, name]; exact same⟩
  | reclaim consumerId =>
    rw [find_reclaimConsumer] at found
    obtain ⟨old, present, -⟩ := Option.map_eq_some_iff.mp found
    exact numbered id old present
  | register consumerId now own =>
    rw [Producer.registerConsumer_eq] at found ⊢
    exact numbered id e found
  | registerUdp consumerId address port now =>
    rw [Producer.registerConsumerUdp_eq] at found ⊢
    exact numbered id e found
  | touch consumerId now => exact numbered id e found
  | unregister consumerId => exact numbered id e found
  | stop => exact numbered id e found

theorem numbered_started (job : JobSetup) (nextSeq : Int) (plugin : σ) :
    Numbered (Producer.started job nextSeq plugin) := by
  intro id e found
  cases found

end PnC.Source
