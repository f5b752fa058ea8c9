import PnC.Source.EchoPlugin
import PnC.Source.EmittedUnits
import PnC.Source.WholeRequest

/-!
# The producer sends what is asked for

A consumer asks with threads_available. Over a whole run no peer is sent more units than its
work requests have asked for; while the plugin gives units and no send fails, it is sent
exactly as many. Each message of the producer is one step.
-/
namespace PnC.Guarantees.FlowControl

open PnC.Library PnC.Source

variable {σ : Type} {plugin : TestPlugin σ} {w after : World σ} {event : Event}

/-- What a message asks for; a count below one asks for nothing. -/
def requested (j : Json) : Nat :=
  if isRequest j then
    match WorkRequestMessage.fromJson j with
    | .error _ => 0
    | .ok req => req.threadsAvailable.toNat
  else 0

/-- Who asks, and for how many units. The first frame of a connection asks for none. -/
def request (w : World σ) : Event → Option (Endpoint × Nat)
  | .frame n j _ =>
    match w.connections n with
    | none => none
    | some c => if c.stage = .receiving then some (.tcp n, requested j) else none
  | .datagram address port j _ => some (.udp address port, requested j)
  | _ => none

/-- What all peers ask for in the step. -/
def demand (w : World σ) (event : Event) : Nat :=
  match request w event with
  | none => 0
  | some (_, count) => count

/-- What this peer asks for in the step. -/
def credit (peer : Endpoint) (w : World σ) (event : Event) : Nat :=
  match request w event with
  | none => 0
  | some (asker, count) => if asker = peer then count else 0

/-- How many units the peer has been sent. -/
def unitsTo (w : World σ) (peer : Endpoint) : Nat := w.units.countP (·.1 = peer)

/-! ## One dispatch loop -/

theorem length_dispatchLoop_le (plugin : TestPlugin σ) (env : DispatchEnv) (consumerId : String)
    (remaining i : Nat) (p : Producer σ) :
    (p.dispatchLoop plugin env consumerId remaining i).sent.length ≤ remaining := by
  induction remaining generalizing i p with
  | zero => exact le_refl _
  | succ remaining ih =>
    unfold Producer.dispatchLoop
    split
    next => exact Nat.zero_le _
    next => exact Nat.zero_le _
    next => exact Nat.zero_le _
    next =>
      dsimp only
      split
      next => exact Nat.succ_le_succ (ih ..)
      next => exact Nat.zero_le _

/-- With enough units to give and no failing send the loop runs to its end. -/
theorem dispatchLoop_full (env : DispatchEnv) (consumerId : String)
    (succeed : ∀ i, env.sendOk i = true) (remaining i : Nat) (p : Producer σ)
    (gives : ∀ m < remaining, ∃ job, plugin.Gives p.plugin m job) :
    (p.dispatchLoop plugin env consumerId remaining i).sent.length = remaining ∧
      (p.dispatchLoop plugin env consumerId remaining i).producer.plugin =
        plugin.after^[remaining] p.plugin := by
  induction remaining generalizing i p with
  | zero => exact ⟨rfl, rfl⟩
  | succ remaining ih =>
    obtain ⟨job, state, call⟩ := gives 0 (Nat.succ_pos _)
    rw [Function.iterate_zero_apply] at call
    have moved : plugin.after p.plugin = state := by rw [TestPlugin.after, call]
    obtain ⟨sent, last⟩ := ih (i + 1)
      (p.recordUnit state (p.unitMessage (env.timestamp i) job) consumerId) (by
        intro m below
        obtain ⟨job, next, call⟩ := gives (m + 1) (Nat.succ_lt_succ below)
        rw [Function.iterate_succ_apply, moved] at call
        exact ⟨job, next, call⟩)
    rw [Producer.dispatchLoop, call]
    dsimp only
    rw [if_pos (succeed i), Function.iterate_succ_apply, moved]
    exact ⟨congrArg Nat.succ sent, last⟩

/-! ## One step -/

/-- Nothing is asked for and nothing sent, or a dispatch loop runs for what is asked. -/
inductive Answers (plugin : TestPlugin σ) (event : Event) (w after : World σ) : Prop where
  | nothing (idle : demand w event = 0) (units : after.units = w.units)
      (state : after.producer.plugin = w.producer.plugin)
  | loop (peer : Endpoint) (count : Nat) (env : DispatchEnv) (consumerId : String)
      (p : Producer σ) (asks : request w event = some (peer, count))
      (state : p.plugin = w.producer.plugin) (serves : World.served event = some (peer, env.sendOk))
      (producer : after.producer = (p.dispatchLoop plugin env consumerId count 0).producer)
      (units : after.units =
        w.units ++ (p.dispatchLoop plugin env consumerId count 0).sent.map (peer, ·))

/-- A step that never calls next_unit sends nothing. -/
theorem kept_of_unasked (sends : World.Sends unasked event w after) :
    after.units = w.units ∧ after.producer.plugin = w.producer.plugin := by
  cases sends with
  | nothing same state => exact ⟨same, state⟩
  | dispatch peer env consumerId remaining p _ _ state _ _ producer units =>
    have stuck : p.dispatchLoop unasked env consumerId remaining 0 =
        ⟨p, [], [], (p.dispatchLoop unasked env consumerId remaining 0).ended⟩ := by
      cases remaining <;> rfl
    rw [stuck] at producer units
    exact ⟨units.trans (List.append_nil _), producer ▸ state⟩

theorem kept_of_unserved (unserved : World.served event = none)
    (sends : World.Sends plugin event w after) :
    after.units = w.units ∧ after.producer.plugin = w.producer.plugin := by
  cases sends with
  | nothing same state => exact ⟨same, state⟩
  | dispatch peer env _ _ _ _ _ _ _ serves =>
    rw [unserved] at serves
    cases serves

theorem requested_eq {j : Json} {req : WorkRequestMessage} (isOne : isRequest j = true)
    (parsed : WorkRequestMessage.fromJson j = .ok req) :
    requested j = req.threadsAvailable.toNat := by
  rw [requested, if_pos isOne, parsed]

theorem requested_eq_zero {j : Json} (other : isRequest j = false) : requested j = 0 := by
  rw [requested, other]
  rfl

theorem requested_of_error {j : Json} {what : Exception}
    (failed : WorkRequestMessage.fromJson j = .error what) : requested j = 0 := by
  rw [requested, failed]
  exact ite_self 0

theorem answers_loopFrame {n : Nat} {c : Connection} {j : Json} {env : HandlerEnv}
    (present : w.connections n = some c) (receiving : c.stage = .receiving) :
    Answers plugin (.frame n j env) w (w.loopFrame plugin n c j env) := by
  have asks : request w (.frame n j env) = some (.tcp n, requested j) := by
    simp only [request, present]
    exact if_pos receiving
  have asked : demand w (.frame n j env) = requested j := by rw [demand, asks]
  cases isOne : isRequest j with
  | false =>
    -- any other frame is handled the same under a plugin that never gives a unit
    rw [World.loopFrame_unserved plugin unasked w n c env isOne]
    obtain ⟨units, state⟩ := kept_of_unasked (World.sends_loopFrame w n c j env)
    exact .nothing (asked.trans (requested_eq_zero isOne)) units state
  | true =>
    have kind := msgType_of_isRequest isOne
    have received := w.units_receive (.tcp n) j
    cases parsed : WorkRequestMessage.fromJson j with
    | error what =>
      refine .nothing (asked.trans (requested_of_error parsed)) ?_ ?_
      · simp only [World.loopFrame, kind, parsed]
        exact received
      · simp only [World.loopFrame, kind, parsed]
        rfl
    | ok req =>
      rw [loopFrame_request plugin w n c env isOne parsed]
      rw [requested_eq isOne parsed] at asks
      refine .loop (.tcp n) _ env.toDispatchEnv req.consumerId _ asks ?_ (if_pos kind) rfl ?_
      · split
        · rw [Producer.registerConsumer_eq]
          rfl
        · rfl
      · rw [← received]
        exact World.units_afterDispatch (w.receive (.tcp n) j) (.tcp n) _

theorem answers_datagram {address : String} {port : Nat} {j : Json} {env : HandlerEnv} :
    Answers plugin (.datagram address port j env) w
      (w.handleUdpMessage plugin address port j env) := by
  cases isOne : isRequest j with
  | false =>
    rw [World.handleUdpMessage_unserved plugin unasked w address port env isOne]
    obtain ⟨units, state⟩ := kept_of_unasked (World.sends_handleUdpMessage w address port j env)
    exact .nothing (requested_eq_zero isOne) units state
  | true =>
    have kind := msgType_of_isRequest isOne
    have received := w.units_receive (.udp address port) j
    cases parsed : WorkRequestMessage.fromJson j with
    | error what =>
      refine .nothing (requested_of_error parsed) ?_ ?_
      · simp only [World.handleUdpMessage, kind, parsed]
        exact received
      · simp only [World.handleUdpMessage, kind, parsed]
        rfl
    | ok req =>
      have asks : request w (.datagram address port j env) =
          some (.udp address port, req.threadsAvailable.toNat) := by
        rw [← requested_eq isOne parsed]
        rfl
      refine .loop (.udp address port) _ ⟨env.timestamp, fun _ => true⟩ req.consumerId
        (w.producer.updateConsumerActivity req.consumerId w.clock) asks rfl rfl ?_ ?_
      · simp only [World.handleUdpMessage, kind, parsed]
        rfl
      · simp only [World.handleUdpMessage, kind, parsed]
        rw [← received]
        exact World.units_afterDispatch (w.receive (.udp address port) j) _ _

theorem answers_step (taken : (producerSystem plugin).step w event = some after) :
    Answers plugin event w after := by
  have local_ (unserved : World.served event = none) (idle : demand w event = 0) :
      Answers plugin event w after := by
    obtain ⟨units, state⟩ := kept_of_unserved unserved (World.sends_step taken)
    exact .nothing idle units state
  cases world_step taken with
  | handshake n c j env present stage =>
    obtain ⟨units, state⟩ := kept_of_unasked (World.sends_handshakeFrame w n c j env)
    refine .nothing ?_ units state
    simp [demand, request, present, stage]
  | inLoop n c j env present stage => exact answers_loopFrame present stage
  | datagram => exact answers_datagram
  | _ => exact local_ rfl rfl

theorem unitsTo_append {peer other : Endpoint} {sent : List WorkUnitMessage}
    (units : after.units = w.units ++ sent.map (other, ·)) :
    unitsTo after peer = unitsTo w peer + if other = peer then sent.length else 0 := by
  rw [unitsTo, units, List.countP_append, List.countP_map]
  congr 1
  split
  next same =>
    refine List.countP_eq_length.mpr ?_
    intro msg _
    exact decide_eq_true same
  next different =>
    refine List.countP_eq_zero.mpr ?_
    intro msg _ same
    exact different (of_decide_eq_true same)

theorem unitsTo_step_le (peer : Endpoint)
    (taken : (producerSystem plugin).step w event = some after) :
    unitsTo after peer ≤ unitsTo w peer + credit peer w event := by
  cases answers_step taken with
  | nothing _ units =>
    rw [unitsTo, units]
    exact Nat.le_add_right _ _
  | loop other count env consumerId p asks _ _ _ units =>
    rw [unitsTo_append units, credit, asks]
    have bounded := length_dispatchLoop_le plugin env consumerId count 0 p
    dsimp only
    split
    · omega
    · omega

/-- The step when the plugin gives what is asked for. -/
theorem unitsTo_step (succeed : SendsSucceed event)
    (gives : ∀ m < demand w event, ∃ job, plugin.Gives w.producer.plugin m job)
    (taken : (producerSystem plugin).step w event = some after) :
    after.producer.plugin = plugin.after^[demand w event] w.producer.plugin ∧
      ∀ peer, unitsTo after peer = unitsTo w peer + credit peer w event := by
  cases answers_step taken with
  | nothing idle units state =>
    refine ⟨by rw [idle, state]; rfl, ?_⟩
    intro peer
    have less : credit peer w event = 0 := by
      unfold demand at idle
      unfold credit
      split
      · rfl
      next asker count asks =>
        rw [asks] at idle
        dsimp only at idle
        rw [idle]
        exact ite_self 0
    rw [less, unitsTo, units]
    rfl
  | loop other count env consumerId p asks state serves producer units =>
    have asked : demand w event = count := by rw [demand, asks]
    rw [asked] at gives ⊢
    rw [← state] at gives ⊢
    obtain ⟨sent, last⟩ := dispatchLoop_full env consumerId (succeed _ _ serves) count 0 p gives
    refine ⟨producer ▸ last, ?_⟩
    intro peer
    rw [unitsTo_append units, sent, credit, asks]

/-! ## Along a run -/

theorem unitsTo_run {events : List Event} (succeed : ∀ event ∈ events, SendsSucceed event)
    (gives : ∀ m < (producerSystem plugin).tally demand w events,
      ∃ job, plugin.Gives w.producer.plugin m job)
    (replay : (producerSystem plugin).run w events = some after) (peer : Endpoint) :
    unitsTo after peer = unitsTo w peer + (producerSystem plugin).tally (credit peer) w events := by
  induction events generalizing w with
  | nil =>
    cases replay
    rfl
  | cons event rest ih =>
    obtain ⟨t, taken, later⟩ := TransitionSystem.run_cons_some replay
    rw [TransitionSystem.tally_cons taken] at gives ⊢
    -- the calls of the rest are those behind the calls of this step
    obtain ⟨state, units⟩ := unitsTo_step (succeed event List.mem_cons_self)
      (fun m below => gives m (by omega)) taken
    have behind := ih (fun event member => succeed event (List.mem_cons_of_mem _ member)) (by
      intro m below
      obtain ⟨job, there⟩ := gives (m + demand w event) (by omega)
      rw [state]
      exact ⟨job, (TestPlugin.gives_iterate ..).mpr there⟩) later
    rw [behind, units peer, Nat.add_assoc]

/-- No peer is sent more units than it has asked for, and when the plugin has all of them to
give and every send succeeds, each peer is sent as many as it has asked for. -/
theorem units_follow_requests (plugin : TestPlugin σ) (p : Producer σ) (events : List Event)
    (after : World σ) (replay : (producerSystem plugin).run (.listening p) events = some after) :
    (∀ peer, unitsTo after peer ≤
      (producerSystem plugin).tally (credit peer) (.listening p) events) ∧
    ((∀ event ∈ events, SendsSucceed event) →
      (∀ m < (producerSystem plugin).tally demand (.listening p) events,
        ∃ job, plugin.Gives p.plugin m job) →
      ∀ peer, unitsTo after peer =
        (producerSystem plugin).tally (credit peer) (.listening p) events) := by
  have start (peer : Endpoint) : unitsTo (World.listening p) peer = 0 := rfl
  refine ⟨fun peer => ?_, fun succeed gives peer => ?_⟩
  · have bounded := TransitionSystem.run_tally_le (unitsTo · peer)
      (fun _ _ _ taken => unitsTo_step_le peer taken) replay
    rwa [start, Nat.zero_add] at bounded
  · have counted := unitsTo_run succeed gives replay peer
    rwa [start, Nat.zero_add] at counted

/-- Two consumers with two threads and one. -/
def twoConsumers : List Event :=
  [.accept 0, .frame 0 (VersionMessage.toJson ⟨pcVersion, "cons-1"⟩) .quiet, .loopTest 0,
    .accept 1, .frame 1 (VersionMessage.toJson ⟨pcVersion, "cons-2"⟩) .quiet, .loopTest 1,
    .frame 1 (WorkRequestMessage.toJson ⟨"cons-2", 1, ""⟩) .quiet,
    .frame 0 (WorkRequestMessage.toJson ⟨"cons-1", 2, ""⟩) .quiet]

theorem units_follow_two_consumers :
    ∃ after, (producerSystem createEchoPlugin).run (.listening echoStart) twoConsumers =
      some after ∧ unitsTo after (.tcp 0) = 2 ∧ unitsTo after (.tcp 1) = 1 := by
  have asked : (producerSystem createEchoPlugin).tally demand (.listening echoStart) twoConsumers =
      3 := by decide +kernel
  have first : (producerSystem createEchoPlugin).tally (credit (.tcp 0)) (.listening echoStart)
      twoConsumers = 2 := by decide +kernel
  have second : (producerSystem createEchoPlugin).tally (credit (.tcp 1)) (.listening echoStart)
      twoConsumers = 1 := by decide +kernel
  have quiet (n : Nat) (j : Json) (env : HandlerEnv) (member : .frame n j env ∈ twoConsumers) :
      env = .quiet := by
    simp only [twoConsumers, List.mem_cons, Event.frame.injEq, reduceCtorEq, List.not_mem_nil,
      false_or, or_false] at member
    rcases member with ⟨-, -, same⟩ | ⟨-, -, same⟩ | ⟨-, -, same⟩ | ⟨-, -, same⟩ <;> exact same
  obtain ⟨-, met⟩ := units_follow_requests createEchoPlugin echoStart twoConsumers _ rfl
  have served := met ?_ ?_
  · exact ⟨_, rfl, (served (.tcp 0)).trans first, (served (.tcp 1)).trans second⟩
  · intro event member peer sendOk serves i
    cases event with
    | frame n j env =>
      by_cases kind : msgType j = .ok "work_request"
      · have served : World.served (.frame n j env) = some (.tcp n, env.sendOk) := if_pos kind
        cases served.symm.trans serves
        rw [quiet n j env member]
        rfl
      · have unserved : World.served (.frame n j env) = none := if_neg kind
        cases unserved.symm.trans serves
    | datagram =>
      cases serves
      rfl
    | _ => cases serves
  · rw [asked]
    intro m below
    obtain rfl | rfl | rfl : m = 0 ∨ m = 1 ∨ m = 2 := by omega
    · exact ⟨_, _, rfl⟩
    · exact ⟨_, _, rfl⟩
    · exact ⟨_, _, rfl⟩

end PnC.Guarantees.FlowControl
