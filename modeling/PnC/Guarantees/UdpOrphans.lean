import PnC.Source.EchoPlugin
import PnC.Source.ProducerSteps

/-!
# Units of unregistered consumers

Over UDP only a version datagram registers a consumer and only an eviction removes
one, together with the units it holds. A work request is served whether or not its
consumer is registered; the TCP handler registers the consumer first. A datagram is one step,
and so is an eviction.
-/
namespace PnC.Guarantees.UdpOrphans

open PnC.Library PnC.Source

variable {σ : Type}

def Registered (p : Producer σ) (consumerId : String) : Prop :=
  ∃ info, p.connectedConsumers.find consumerId = some info

/-- Every unit that is Sent is held by a registered consumer. -/
def NoOrphans (p : Producer σ) : Prop :=
  ∀ id e, p.tracker.find id = some e → e.status = .sent → Registered p e.consumerId

/-- The step hands no unit to a consumer that is not registered. -/
def ServesRegistered (plugin : TestPlugin σ) (w : World σ) (event : Event) : Prop :=
  match event with
  | .datagram _ _ j _ =>
    msgType j = .ok "work_request" → ∀ req, WorkRequestMessage.fromJson j = .ok req →
      0 < req.threadsAvailable →
        (∃ state job, plugin.nextUnit w.producer.plugin = .unit state job) →
          Registered w.producer req.consumerId
  | _ => True

/-! ## The changes that a datagram or an eviction makes -/

theorem registered_touch (p : Producer σ) (consumerId queried : String) (now : Nat) :
    Registered (p.updateConsumerActivity consumerId now) queried ↔ Registered p queried := by
  unfold Registered Producer.updateConsumerActivity
  simp only [KeyedStore.find_modify]
  split
  next same =>
    rw [same]
    cases p.connectedConsumers.find consumerId <;> simp
  next => exact Iff.rfl

theorem noOrphans_touch (p : Producer σ) (consumerId : String) (now : Nat) :
    NoOrphans (p.updateConsumerActivity consumerId now) ↔ NoOrphans p := by
  unfold NoOrphans
  simp only [registered_touch]
  rfl

theorem noOrphans_registerUdp {p : Producer σ} (kept : NoOrphans p) (consumerId address : String)
    (port now : Nat) : NoOrphans (p.registerConsumerUdp consumerId address port now) := by
  intro id e found sent
  rw [Producer.registerConsumerUdp_eq] at found
  obtain ⟨info, present⟩ := kept id e found sent
  unfold Registered
  rw [Producer.find_registerConsumerUdp]
  split
  · exact ⟨_, rfl⟩
  · exact ⟨info, present⟩

/-- A result leaves the unit it names Completed or Pending. -/
theorem noOrphans_result {p : Producer σ} (kept : NoOrphans p) (result : ResultMessage) :
    NoOrphans (p.handleResult result) := by
  intro id e found sent
  obtain ⟨-, -, -, consumers⟩ := frame_handleResult p result
  unfold Registered
  rw [consumers]
  rw [find_handleResult] at found
  split at found
  next =>
    obtain ⟨old, -, rfl⟩ := Option.map_eq_some_iff.mp found
    split at sent <;> cases sent
  next => exact kept id e found sent

/-- An eviction takes back every unit of the consumer that it removes. -/
theorem noOrphans_evicted {p : Producer σ} (kept : NoOrphans p) (consumerId : String) :
    NoOrphans ((p.reclaimConsumer consumerId).unregisterConsumer consumerId) := by
  intro id e found sent
  change (p.reclaimConsumer consumerId).tracker.find id = some e at found
  rw [find_reclaimConsumer] at found
  obtain ⟨old, present, rfl⟩ := Option.map_eq_some_iff.mp found
  unfold WorkTracker.reclaim at sent ⊢
  split at sent
  next => cases sent
  next elsewhere =>
    rw [if_neg elsewhere]
    have other : old.consumerId ≠ consumerId := by
      intro same
      exact elsewhere (by simp [WorkTracker.isHeldBy, sent, same])
    obtain ⟨info, registered⟩ := kept id old present sent
    refine ⟨info, ?_⟩
    change (p.connectedConsumers.erase consumerId).find old.consumerId = some info
    rw [KeyedStore.find_erase, if_neg other]
    exact registered

/-! ## A work request -/

/-- Some unit is Sent to the consumer. -/
def Holds (p : Producer σ) (consumerId : String) : Prop :=
  ∃ id e, p.tracker.find id = some e ∧ e.status = .sent ∧ e.consumerId = consumerId

theorem holds_recordUnit (p : Producer σ) (state : σ) (timestamp consumerId : String)
    (job : Json) :
    Holds (p.recordUnit state (p.unitMessage timestamp job) consumerId) consumerId := by
  refine ⟨p.unitId p.nextSeq,
    WorkTracker.toSent consumerId (Producer.pendingEntry (p.unitMessage timestamp job)),
    ?_, rfl, rfl⟩
  rw [find_recordUnit, if_pos rfl]

theorem noOrphans_recordUnit {p : Producer σ} (kept : NoOrphans p) {consumerId : String}
    (registered : Registered p consumerId) (state : σ) (timestamp : String) (job : Json) :
    NoOrphans (p.recordUnit state (p.unitMessage timestamp job) consumerId) := by
  intro id e found sent
  rw [find_recordUnit] at found
  split at found
  next =>
    cases found
    exact registered
  next => exact kept id e found sent

theorem connectedConsumers_dispatchLoop (plugin : TestPlugin σ) (env : DispatchEnv)
    (consumerId : String) (remaining i : Nat) (p : Producer σ) :
    (p.dispatchLoop plugin env consumerId remaining i).producer.connectedConsumers =
      p.connectedConsumers := by
  apply dispatchLoop_preserves plugin env consumerId
    fun q => q.connectedConsumers = p.connectedConsumers
  · exact fun _ _ same => same
  · exact fun _ _ _ _ _ same => same
  · rfl

theorem noOrphans_dispatchLoop (plugin : TestPlugin σ) (env : DispatchEnv) {consumerId : String}
    (remaining i : Nat) {p : Producer σ} (kept : NoOrphans p)
    (registered : Registered p consumerId) :
    NoOrphans (p.dispatchLoop plugin env consumerId remaining i).producer := by
  have both := dispatchLoop_preserves plugin env consumerId
    (fun q => NoOrphans q ∧ Registered q consumerId) (fun _ _ both => both)
    (fun q state timestamp job _ both =>
      ⟨noOrphans_recordUnit both.1 both.2 state timestamp job, both.2⟩) remaining i
    ⟨kept, registered⟩
  exact both.1

/-- What is held stays held while the loop goes on for the same consumer. -/
theorem holds_dispatchLoop (plugin : TestPlugin σ) (env : DispatchEnv) {consumerId : String}
    (remaining i : Nat) {p : Producer σ} (holds : Holds p consumerId) :
    Holds (p.dispatchLoop plugin env consumerId remaining i).producer consumerId := by
  apply dispatchLoop_preserves plugin env consumerId (Holds · consumerId)
  · exact fun _ _ holds => holds
  · exact fun q state timestamp job _ _ => holds_recordUnit q state timestamp consumerId job
  · exact holds

/-- The loop orphans a unit exactly when it gives one to an unregistered consumer. -/
theorem noOrphans_dispatchLoop_iff (plugin : TestPlugin σ) (env : DispatchEnv)
    (consumerId : String) (remaining i : Nat) {p : Producer σ} (kept : NoOrphans p) :
    NoOrphans (p.dispatchLoop plugin env consumerId remaining i).producer ↔
      (0 < remaining → (∃ state job, plugin.nextUnit p.plugin = .unit state job) →
        Registered p consumerId) := by
  constructor
  · intro later some_threads gives
    obtain ⟨state, job, call⟩ := gives
    have holds : Holds (p.dispatchLoop plugin env consumerId remaining i).producer consumerId := by
      cases remaining with
      | zero => exact absurd some_threads (Nat.lt_irrefl 0)
      | succ remaining =>
        unfold Producer.dispatchLoop
        rw [call]
        dsimp only
        split
        · exact holds_dispatchLoop plugin env remaining (i + 1) (holds_recordUnit ..)
        · exact holds_recordUnit ..
    obtain ⟨id, e, found, sent, holder⟩ := holds
    have registered := later id e found sent
    rw [holder] at registered
    unfold Registered at registered
    rw [connectedConsumers_dispatchLoop] at registered
    exact registered
  · intro served
    cases remaining with
    | zero => exact kept
    | succ remaining =>
      cases call : plugin.nextUnit p.plugin with
      | unit state job =>
        exact noOrphans_dispatchLoop plugin env _ i kept
          (served (Nat.succ_pos remaining) ⟨state, job, call⟩)
      | exhausted | threw | stuck =>
        unfold Producer.dispatchLoop
        rw [call]
        exact kept

/-! ## The steps of the producer over UDP -/

theorem noOrphans_handleUdpMessage (plugin : TestPlugin σ) {w : World σ}
    (kept : NoOrphans w.producer)
    (address : String) (port : Nat) (j : Json) (env : HandlerEnv) :
    NoOrphans (w.handleUdpMessage plugin address port j env).producer ↔
      ServesRegistered plugin w (.datagram address port j env) := by
  unfold ServesRegistered
  by_cases request : msgType j = .ok "work_request"
  · unfold World.handleUdpMessage
    rw [request]
    dsimp only
    cases read : WorkRequestMessage.fromJson j with
    | error what => exact iff_of_true kept (fun _ _ other => by cases other)
    | ok req =>
      have touched := (noOrphans_touch w.producer req.consumerId w.clock).mpr kept
      refine (noOrphans_dispatchLoop_iff plugin ⟨env.timestamp, fun _ => true⟩ req.consumerId
        req.threadsAvailable.toNat 0 touched).trans ?_
      rw [registered_touch, Int.lt_toNat]
      constructor
      · intro served _ other same
        rw [← Except.ok.inj same]
        exact served
      · intro served
        exact served request req rfl
  · refine iff_of_true ?_ (fun isRequest => absurd isRequest request)
    unfold World.handleUdpMessage
    split
    next => exact kept
    next =>
      split
      next => exact kept
      next =>
        split
        · exact kept
        · exact noOrphans_registerUdp kept _ _ _ _
    next isRequest => exact absurd isRequest request
    next =>
      split
      next => exact kept
      next => exact noOrphans_result ((noOrphans_touch ..).mpr kept) _
    next =>
      split
      next => exact kept
      next => exact (noOrphans_touch ..).mpr kept
    next => exact kept

theorem noOrphans_evict {w after : World σ} {consumerId : String} (kept : NoOrphans w.producer)
    (evicted : w.evict consumerId = some after) : NoOrphans after.producer := by
  rw [World.producer_evict evicted]
  exact noOrphans_evicted kept consumerId

theorem noOrphans_step_iff {plugin : TestPlugin σ} {w after : World σ} {event : Event}
    (kept : NoOrphans w.producer) (taken : (udpSystem plugin).step w event = some after) :
    NoOrphans after.producer ↔ ServesRegistered plugin w event := by
  cases event with
  | accept | frame | broken | loopTest | reclaim | unregister => cases taken
  | datagram address port j env =>
    cases taken
    exact noOrphans_handleUdpMessage plugin kept address port j env
  | tick | stop =>
    cases taken
    exact iff_of_true kept trivial
  | monitorScan =>
    simp only [udpSystem, Event.connection, producerSystem] at taken
    split at taken
    · cases taken
      exact iff_of_true kept trivial
    · cases taken
  | monitorEvict =>
    simp only [udpSystem, Event.connection, producerSystem] at taken
    split at taken
    next => cases taken
    next consumerId rest _ =>
      refine iff_of_true (noOrphans_evict (w := { w with stale := rest }) ?_ taken) trivial
      exact kept

/-- Over UDP a run never orphans a unit exactly when each of its work requests that is
given a unit comes from a consumer that is registered at that moment. -/
theorem no_orphans_iff (plugin : TestPlugin σ) (job : JobSetup) (nextSeq : Int) (state : σ)
    (events : List Event) :
    (udpSystem plugin).Along (fun _ _ after => NoOrphans after.producer)
        (World.listening (.started job nextSeq state)) events ↔
      (udpSystem plugin).Along (fun w event _ => ServesRegistered plugin w event)
        (World.listening (.started job nextSeq state)) events := by
  apply TransitionSystem.along_iff (fun w => NoOrphans w.producer)
  · exact fun w event after kept taken => noOrphans_step_iff kept taken
  · exact fun w event after kept served taken => (noOrphans_step_iff kept taken).mpr served
  · intro id e found
    cases found

/-- A work request from a consumer that never sent its version. -/
def firstRequest : List Event :=
  [.datagram "10.0.0.2" 40000 (WorkRequestMessage.toJson ⟨"cons-1", 1, ""⟩) .quiet]

/-- Its unit is Sent to a consumer that no scan of the monitor will find. -/
theorem unregistered_request_orphans :
    ¬ ∀ (job : JobSetup) (events : List Event),
      (udpSystem createEchoPlugin).Along (fun _ _ after => NoOrphans after.producer)
        (World.listening (.started job 0 EchoState.new)) events := by
  intro claimed
  have along := claimed ⟨"prod-1", "ECHO", "", "", "sequential", 0⟩ firstRequest
  have kept := (along _ rfl).1
  obtain ⟨info, registered⟩ := kept "prod-1-0" _ rfl rfl
  cases registered

end PnC.Guarantees.UdpOrphans
