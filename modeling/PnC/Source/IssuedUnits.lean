import PnC.Source.ProducerSteps

/-!
# The units that the producer has sent

While each message is processed as one step, no two units are sent under one id, whichever
connections and addresses they go to. A step that processes no result completes nothing,
and changes no entry that is not outstanding.
-/
namespace PnC.Source

open PnC.Library

variable {σ : Type} {plugin : TestPlugin σ}

/-- The job came out of next_unit. -/
def TestPlugin.Offers (plugin : TestPlugin σ) (job : Json) : Prop :=
  ∃ state next, plugin.nextUnit state = .unit next job

def Traffic.unit? : Traffic → Option (Endpoint × WorkUnitMessage)
  | .workUnit peer msg => some (peer, msg)
  | _ => none

/-- Every unit that has been sent, with the peer it went to, oldest first. -/
def World.units (w : World σ) : List (Endpoint × WorkUnitMessage) :=
  w.traffic.reverse.filterMap Traffic.unit?

/-! ## What one dispatch loop sends -/

/-- The units carry numbers that next_seq_ has run through in between, each once. -/
structure Producer.Issues (plugin : TestPlugin σ) (p q : Producer σ)
    (sent : List WorkUnitMessage) : Prop where
  name : q.producerId = p.producerId
  seq : p.nextSeq ≤ q.nextSeq
  numbered : ∀ msg ∈ sent, ∃ m, p.nextSeq ≤ m ∧ m < q.nextSeq ∧ msg.workUnitId = p.unitId m
  emitted : ∀ msg ∈ sent, plugin.Offers msg.job
  distinct : (sent.map (·.workUnitId)).Nodup
  tracked : ∀ msg ∈ sent, (q.tracker.find msg.workUnitId).isSome = true

/-- The tracker forgets no entry. -/
theorem isSome_recordUnit (p : Producer σ) (state : σ) (timestamp consumerId : String) (job : Json)
    {id : String} (known : (p.tracker.find id).isSome = true) :
    ((p.recordUnit state (p.unitMessage timestamp job) consumerId).tracker.find id).isSome =
      true := by
  rw [find_recordUnit]
  split
  · rfl
  · exact known

theorem isSome_handleResult (p : Producer σ) (result : ResultMessage) (id : String) :
    ((p.handleResult result).tracker.find id).isSome = (p.tracker.find id).isSome := by
  rw [find_handleResult]
  split
  next same => rw [Option.isSome_map, same]
  next => rfl

theorem isSome_reclaim (p : Producer σ) (consumerId id : String) :
    ((p.reclaimConsumer consumerId).tracker.find id).isSome = (p.tracker.find id).isSome := by
  rw [find_reclaimConsumer, Option.isSome_map]

theorem issues_dispatchLoop (plugin : TestPlugin σ) (env : DispatchEnv) (consumerId : String)
    (remaining i : Nat) (p : Producer σ) :
    p.Issues plugin (p.dispatchLoop plugin env consumerId remaining i).producer
      (p.dispatchLoop plugin env consumerId remaining i).sent := by
  induction remaining generalizing i p with
  | zero => exact ⟨rfl, le_refl _, nofun, nofun, List.nodup_nil, nofun⟩
  | succ remaining ih =>
    unfold Producer.dispatchLoop
    split
    next => exact ⟨rfl, le_refl _, nofun, nofun, List.nodup_nil, nofun⟩
    next => exact ⟨rfl, le_refl _, nofun, nofun, List.nodup_nil, nofun⟩
    next => exact ⟨rfl, le_refl _, nofun, nofun, List.nodup_nil, nofun⟩
    next state job call =>
      have counted : (p.recordUnit state (p.unitMessage (env.timestamp i) job) consumerId).nextSeq =
          p.nextSeq + 1 := rfl
      split
      next =>
        obtain ⟨name, seq, numbered, emitted, distinct, tracked⟩ := ih (i + 1)
          (p.recordUnit state (p.unitMessage (env.timestamp i) job) consumerId)
        rw [counted] at seq numbered
        dsimp only
        refine ⟨name, by omega, ?_, ?_, ?_, ?_⟩
        · intro msg member
          rcases List.mem_cons.mp member with rfl | later
          · exact ⟨p.nextSeq, le_refl _, by omega, rfl⟩
          · obtain ⟨m, low, high, same⟩ := numbered msg later
            exact ⟨m, by omega, high, same⟩
        · intro msg member
          rcases List.mem_cons.mp member with rfl | later
          · exact ⟨p.plugin, state, call⟩
          · exact emitted msg later
        · refine List.nodup_cons.mpr ⟨?_, distinct⟩
          intro again
          obtain ⟨msg, later, same⟩ := List.mem_map.mp again
          obtain ⟨m, low, -, other⟩ := numbered msg later
          have equal : m = p.nextSeq := p.unitId_injective (other.symm.trans same)
          omega
        · intro msg member
          rcases List.mem_cons.mp member with rfl | later
          · refine dispatchLoop_preserves plugin env consumerId
              (fun q => (q.tracker.find (p.unitId p.nextSeq)).isSome = true) (fun _ _ known => known)
              (fun q state timestamp job _ known =>
                isSome_recordUnit q state timestamp consumerId job known) remaining (i + 1) ?_
            rw [find_recordUnit, if_pos rfl]
            rfl
          · exact tracked msg later
      next => exact ⟨rfl, by dsimp only; omega, nofun, nofun, List.nodup_nil, nofun⟩

namespace World

theorem units_of_traffic (w : World σ) {after : World σ} (new : List Traffic)
    (traffic : after.traffic = new ++ w.traffic) :
    after.units = w.units ++ new.reverse.filterMap Traffic.unit? := by
  rw [units, traffic, List.reverse_append, List.filterMap_append, units]

theorem units_receive (w : World σ) (peer : Endpoint) (j : Json) :
    (w.receive peer j).units = w.units := by
  rw [units_of_traffic w [.received peer j] rfl]
  exact List.append_nil _

theorem units_answer (w : World σ) (peer : Endpoint) (status : String) :
    (w.answer peer status).units = w.units := by
  rw [units_of_traffic w [.answered peer status] rfl]
  exact List.append_nil _

theorem units_afterDispatch (w : World σ) (peer : Endpoint) (d : Dispatch σ) :
    (w.afterDispatch peer d).units = w.units ++ d.sent.map (peer, ·) := by
  rw [units_of_traffic w _ rfl, List.reverse_reverse, List.filterMap_map]
  congr 1
  induction d.sent with
  | nil => rfl
  | cons msg rest ih => simpa [Traffic.unit?] using ih

/-- The peer whose work request the event brings, and which sends to it succeed. -/
def served : Event → Option (Endpoint × (Nat → Bool))
  | .frame n j env => if msgType j = .ok "work_request" then some (.tcp n, env.sendOk) else none
  | .datagram address port _ _ => some (.udp address port, fun _ => true)
  | _ => none

/-- The change that one step makes to what has been sent: nothing, or what one dispatch
loop sends to one peer. -/
inductive Sends (plugin : TestPlugin σ) (event : Event) (w after : World σ) : Prop where
  | nothing (same : after.units = w.units) (state : after.producer.plugin = w.producer.plugin)
      (entries : ∀ id, (after.producer.tracker.find id).isSome =
        (w.producer.tracker.find id).isSome)
  | dispatch (peer : Endpoint) (env : DispatchEnv) (consumerId : String) (remaining : Nat)
      (p : Producer σ) (seq : p.nextSeq = w.producer.nextSeq)
      (name : p.producerId = w.producer.producerId) (state : p.plugin = w.producer.plugin)
      (tracker : p.tracker = w.producer.tracker)
      (serves : served event = some (peer, env.sendOk))
      (producer : after.producer = (p.dispatchLoop plugin env consumerId remaining 0).producer)
      (units : after.units =
        w.units ++ (p.dispatchLoop plugin env consumerId remaining 0).sent.map (peer, ·))

/-- Taking over an id touches neither the generator nor the tracker. -/
theorem frame_adopt (w : World σ) (n : Nat) (c : Connection) (consumerId : String) :
    (w.adopt n c consumerId).plugin = w.producer.plugin ∧
      (w.adopt n c consumerId).tracker = w.producer.tracker := by
  unfold adopt
  split
  · rw [Producer.registerConsumer_eq]
    exact ⟨rfl, rfl⟩
  · exact ⟨rfl, rfl⟩

theorem sends_handshakeFrame (w : World σ) (n : Nat) (c : Connection) (j : Json)
    (env : HandlerEnv) : Sends plugin (.frame n j env) w (w.handshakeFrame n c j env) := by
  have received := w.units_receive (.tcp n) j
  have answered (status : String) : ((w.receive (.tcp n) j).answer (.tcp n) status).units =
      w.units := (units_answer ..).trans received
  unfold handshakeFrame
  split
  next => exact .nothing received rfl fun _ => rfl
  next =>
    split
    next => exact .nothing received rfl fun _ => rfl
    next ver _ =>
      split
      · split
        · exact .nothing (answered "mismatch") rfl fun _ => rfl
        · refine .nothing (answered "ok") ?_ fun id => ?_
          · dsimp only [setProducer, setConnection]
            rw [Producer.registerConsumer_eq]
            rfl
          · dsimp only [setProducer, setConnection]
            rw [Producer.registerConsumer_eq]
            rfl
      · exact .nothing received rfl fun _ => rfl
  next => exact .nothing received rfl fun _ => rfl

theorem sends_loopFrame (w : World σ) (n : Nat) (c : Connection) (j : Json) (env : HandlerEnv) :
    Sends plugin (.frame n j env) w (w.loopFrame plugin n c j env) := by
  have received := w.units_receive (.tcp n) j
  unfold loopFrame
  split
  next => exact .nothing received rfl fun _ => rfl
  next kind =>
    split
    next => exact .nothing received rfl fun _ => rfl
    next req _ =>
      refine .dispatch (.tcp n) env.toDispatchEnv req.consumerId req.threadsAvailable.toNat _ ?_ ?_
        ?_ ?_ (if_pos kind) rfl ?_
      · split
        · rw [Producer.registerConsumer_eq]
          rfl
        · rfl
      · split
        · rw [Producer.registerConsumer_eq]
          rfl
        · rfl
      · split
        · rw [Producer.registerConsumer_eq]
          rfl
        · rfl
      · split
        · rw [Producer.registerConsumer_eq]
          rfl
        · rfl
      · rw [← received]
        exact units_afterDispatch (w.receive (.tcp n) j) (.tcp n) _
  next =>
    split
    next => exact .nothing received rfl fun _ => rfl
    next result _ =>
      obtain ⟨state, tracker⟩ := frame_adopt (w.receive (.tcp n) j) n c result.consumerId
      refine .nothing received ((frame_handleResult _ result).2.2.1.trans state) fun id => ?_
      exact (isSome_handleResult _ result id).trans (congrArg (·.find id |>.isSome) tracker)
  next =>
    split
    next => exact .nothing received rfl fun _ => rfl
    next hb _ =>
      obtain ⟨state, tracker⟩ := frame_adopt (w.receive (.tcp n) j) n c hb.consumerId
      exact .nothing received state fun id => congrArg (·.find id |>.isSome) tracker
  next => exact .nothing received rfl fun _ => rfl

theorem sends_handleUdpMessage (w : World σ) (address : String) (port : Nat) (j : Json)
    (env : HandlerEnv) :
    Sends plugin (.datagram address port j env) w
      (w.handleUdpMessage plugin address port j env) := by
  have received := w.units_receive (.udp address port) j
  have answered (status : String) :
      ((w.receive (.udp address port) j).answer (.udp address port) status).units = w.units :=
    (units_answer ..).trans received
  unfold handleUdpMessage
  split
  next => exact .nothing received rfl fun _ => rfl
  next =>
    split
    next => exact .nothing received rfl fun _ => rfl
    next =>
      split
      · exact .nothing (answered "mismatch") rfl fun _ => rfl
      · refine .nothing (answered "ok") ?_ fun id => ?_
        · dsimp only [setProducer]
          rw [Producer.registerConsumerUdp_eq]
          rfl
        · dsimp only [setProducer]
          rw [Producer.registerConsumerUdp_eq]
          rfl
  next =>
    split
    next => exact .nothing received rfl fun _ => rfl
    next req _ =>
      refine .dispatch (.udp address port) ⟨env.timestamp, fun _ => true⟩ req.consumerId
        req.threadsAvailable.toNat (w.producer.updateConsumerActivity req.consumerId w.clock)
        rfl rfl rfl rfl rfl rfl ?_
      rw [← received]
      exact units_afterDispatch (w.receive (.udp address port) j) _ _
  next =>
    split
    next => exact .nothing received rfl fun _ => rfl
    next result _ =>
      exact .nothing received (frame_handleResult _ _).2.2.1 (isSome_handleResult _ result)
  next =>
    split
    next => exact .nothing received rfl fun _ => rfl
    next => exact .nothing received rfl fun _ => rfl
  next => exact .nothing received rfl fun _ => rfl

theorem sends_step {w after : World σ} {event : Event}
    (taken : (producerSystem plugin).step w event = some after) : Sends plugin event w after := by
  cases world_step taken with
  | handshake n c j env => exact sends_handshakeFrame w n c j env
  | inLoop n c j env => exact sends_loopFrame w n c j env
  | datagram address port j env => exact sends_handleUdpMessage w address port j env
  | reclaim n c =>
    refine .nothing rfl ?_ fun id => ?_
    · dsimp only [setConnection, setProducer]
      split <;> rfl
    · dsimp only [setConnection, setProducer]
      split
      · rfl
      · exact isSome_reclaim _ c.consumerId id
  | unregister n c =>
    refine .nothing rfl ?_ fun id => ?_
    · dsimp only [setConnection, setProducer]
      split <;> rfl
    · dsimp only [setConnection, setProducer]
      split <;> rfl
  | monitorEvict consumerId rest _ stale evicted =>
    obtain rfl | ⟨n, c, -, rfl⟩ := evict_cases evicted
    · exact .nothing rfl rfl (isSome_reclaim w.producer consumerId)
    · exact .nothing rfl rfl (isSome_reclaim w.producer consumerId)
  | _ => exact .nothing rfl rfl fun _ => rfl

end World

/-! ## Along a run -/

/-- No id was given to two units; each carries a number below next_seq_, and a job that
next_unit gave. -/
structure World.Issued (plugin : TestPlugin σ) (w : World σ) : Prop where
  distinct : (w.units.map (·.2.workUnitId)).Nodup
  numbered : ∀ unit ∈ w.units, ∃ m < w.producer.nextSeq,
    unit.2.workUnitId = w.producer.unitId m
  emitted : ∀ unit ∈ w.units, plugin.Offers unit.2.job
  tracked : ∀ unit ∈ w.units, (w.producer.tracker.find unit.2.workUnitId).isSome = true

/-- The producer keeps its id, and next_seq_ never falls. -/
theorem ProducerStep.seq_mono {peer : Option Nat} {p q : Producer σ}
    (step : ProducerStep plugin peer p q) :
    q.producerId = p.producerId ∧ p.nextSeq ≤ q.nextSeq := by
  cases step with
  | unit => exact ⟨rfl, by simp only [Producer.recordUnit]; omega⟩
  | result msg =>
    obtain ⟨seq, name, -⟩ := frame_handleResult p msg
    exact ⟨name, le_of_eq seq.symm⟩
  | register consumerId now own =>
    rw [Producer.registerConsumer_eq]
    exact ⟨rfl, le_refl _⟩
  | registerUdp consumerId address port now =>
    rw [Producer.registerConsumerUdp_eq]
    exact ⟨rfl, le_refl _⟩
  | refused | reclaim | touch | unregister | stop => exact ⟨rfl, le_refl _⟩

theorem seq_mono_step {w after : World σ} {event : Event}
    (taken : (producerSystem plugin).step w event = some after) :
    after.producer.producerId = w.producer.producerId ∧
      w.producer.nextSeq ≤ after.producer.nextSeq := by
  have steps := producer_steps taken
  generalize after.producer = q at steps
  induction steps with
  | refl => exact ⟨rfl, le_refl _⟩
  | tail _ step ih =>
    obtain ⟨name, seq⟩ := step.seq_mono
    exact ⟨name.trans ih.1, ih.2.trans seq⟩

theorem ProducerStep.tracked_mono {peer : Option Nat} {p q : Producer σ}
    (step : ProducerStep plugin peer p q) {id : String}
    (known : (p.tracker.find id).isSome = true) : (q.tracker.find id).isSome = true := by
  cases step with
  | unit timestamp consumerId => exact isSome_recordUnit p _ timestamp consumerId _ known
  | result msg =>
    rw [isSome_handleResult]
    exact known
  | reclaim consumerId =>
    rw [isSome_reclaim]
    exact known
  | register consumerId now own =>
    rw [Producer.registerConsumer_eq]
    exact known
  | registerUdp consumerId address port now =>
    rw [Producer.registerConsumerUdp_eq]
    exact known
  | refused | touch | unregister | stop => exact known

theorem tracked_mono_step {w after : World σ} {event : Event}
    (taken : (producerSystem plugin).step w event = some after) {id : String}
    (known : (w.producer.tracker.find id).isSome = true) :
    (after.producer.tracker.find id).isSome = true := by
  have steps := producer_steps taken
  generalize after.producer = q at steps
  induction steps with
  | refl => exact known
  | tail _ step ih => exact step.tracked_mono ih

theorem issued_step {w after : World σ} {event : Event} (issued : w.Issued plugin)
    (taken : (producerSystem plugin).step w event = some after) : after.Issued plugin := by
  obtain ⟨distinct, numbered, emitted, tracked⟩ := issued
  obtain ⟨name, seq⟩ := seq_mono_step taken
  have older (unit : Endpoint × WorkUnitMessage) (member : unit ∈ w.units) :
      ∃ m < after.producer.nextSeq, unit.2.workUnitId = after.producer.unitId m := by
    obtain ⟨m, below, same⟩ := numbered unit member
    exact ⟨m, by omega, by rw [Producer.unitId, name]; exact same⟩
  cases World.sends_step taken with
  | nothing same =>
    exact ⟨by rw [same]; exact distinct, by rw [same]; exact older, by rw [same]; exact emitted,
      by rw [same]; exact fun unit member => tracked_mono_step taken (tracked unit member)⟩
  | dispatch peer env consumerId remaining p pSeq pName state tracker serves producer units =>
    have issues := issues_dispatchLoop plugin env consumerId remaining 0 p
    rw [← producer] at issues
    have unitIds (m : Int) : p.unitId m = after.producer.unitId m := by
      rw [Producer.unitId, Producer.unitId, issues.name]
    refine ⟨?_, ?_, ?_, ?_⟩
    · rw [units, List.map_append, List.map_map, List.nodup_append]
      refine ⟨distinct, issues.distinct, ?_⟩
      intro id old other new same
      obtain ⟨unit, member, rfl⟩ := List.mem_map.mp old
      obtain ⟨msg, sent, rfl⟩ := List.mem_map.mp new
      obtain ⟨m, below, first⟩ := numbered unit member
      obtain ⟨k, above, -, second⟩ := issues.numbered msg sent
      have equal : m = k := by
        refine w.producer.unitId_injective ?_
        rw [← first, same]
        exact second.trans (by rw [Producer.unitId, Producer.unitId, pName])
      omega
    · intro unit member
      rw [units] at member
      rcases List.mem_append.mp member with old | new
      · exact older unit old
      · obtain ⟨msg, sent, rfl⟩ := List.mem_map.mp new
        obtain ⟨m, -, below, same⟩ := issues.numbered msg sent
        exact ⟨m, below, same.trans (unitIds m)⟩
    · intro unit member
      rw [units] at member
      rcases List.mem_append.mp member with old | new
      · exact emitted unit old
      · obtain ⟨msg, sent, rfl⟩ := List.mem_map.mp new
        exact issues.emitted msg sent
    · intro unit member
      rw [units] at member
      rcases List.mem_append.mp member with old | new
      · exact tracked_mono_step taken (tracked unit old)
      · obtain ⟨msg, sent, rfl⟩ := List.mem_map.mp new
        exact issues.tracked msg sent

theorem issued_listening (p : Producer σ) : (World.listening p).Issued plugin :=
  ⟨List.nodup_nil, nofun, nofun, nofun⟩

/-! ## Steps that process no result -/

/-- What such a step keeps: entries that are not outstanding, and what has been found. It
completes no unit. -/
structure Producer.Keeps (p q : Producer σ) : Prop where
  name : q.producerId = p.producerId
  seq : p.nextSeq ≤ q.nextSeq
  settled : ∀ m < p.nextSeq, ∀ status ≠ .sent, p.tracker.status (p.unitId m) = some status →
    q.tracker.status (p.unitId m) = some status
  completed : ∀ id, q.tracker.status id = some .completed → p.tracker.status id = some .completed
  found : q.foundPassword = p.foundPassword
  fileError : q.fileErrorMsg = p.fileErrorMsg

namespace Producer

variable {p q r : Producer σ}

/-- A change of other members. -/
theorem Keeps.of_same (name : q.producerId = p.producerId) (seq : q.nextSeq = p.nextSeq)
    (tracker : q.tracker = p.tracker) (found : q.foundPassword = p.foundPassword)
    (fileError : q.fileErrorMsg = p.fileErrorMsg) : p.Keeps q :=
  ⟨name, le_of_eq seq.symm, fun _ _ _ _ before => by rw [tracker]; exact before,
    fun _ done => by rw [tracker] at done; exact done, found, fileError⟩

theorem Keeps.refl (p : Producer σ) : p.Keeps p := .of_same rfl rfl rfl rfl rfl

theorem Keeps.trans (first : p.Keeps q) (second : q.Keeps r) : p.Keeps r := by
  refine ⟨second.name.trans first.name, first.seq.trans second.seq, ?_, ?_,
    second.found.trans first.found, second.fileError.trans first.fileError⟩
  · intro m below status notSent before
    have between := first.settled m below status notSent before
    have same : q.unitId m = p.unitId m := by rw [unitId, unitId, first.name]
    have after := second.settled m (by have := first.seq; omega) status notSent (same ▸ between)
    rw [← same]
    exact after
  · exact fun id done => first.completed id (second.completed id done)

theorem keeps_register (p : Producer σ) (consumerId : String) (socket now : Nat) :
    p.Keeps (p.registerConsumer consumerId socket now) := by
  rw [registerConsumer_eq]
  exact .of_same rfl rfl rfl rfl rfl

theorem keeps_touch (p : Producer σ) (consumerId : String) (now : Nat) :
    p.Keeps (p.updateConsumerActivity consumerId now) := .of_same rfl rfl rfl rfl rfl

theorem keeps_unregister (p : Producer σ) (consumerId : String) :
    p.Keeps (p.unregisterConsumer consumerId) := .of_same rfl rfl rfl rfl rfl

theorem keeps_reclaim (p : Producer σ) (consumerId : String) :
    p.Keeps (p.reclaimConsumer consumerId) := by
  refine ⟨rfl, le_refl _, ?_, ?_, rfl, rfl⟩
  · intro m _ status notSent before
    obtain ⟨e, found, rfl⟩ := Option.map_eq_some_iff.mp before
    have same : WorkTracker.reclaim consumerId e = e := by
      simp [WorkTracker.reclaim, WorkTracker.isHeldBy, notSent]
    rw [WorkTracker.status, find_reclaimConsumer, found, Option.map_some, Option.map_some, same]
  · intro id done
    obtain ⟨e, found, status⟩ := Option.map_eq_some_iff.mp done
    rw [find_reclaimConsumer] at found
    obtain ⟨old, before, rfl⟩ := Option.map_eq_some_iff.mp found
    rw [WorkTracker.status, before, Option.map_some]
    unfold WorkTracker.reclaim at status
    split at status
    next => cases status
    next => rw [status]

theorem keeps_recordUnit (p : Producer σ) (state : σ) (timestamp consumerId : String)
    (job : Json) : p.Keeps (p.recordUnit state (p.unitMessage timestamp job) consumerId) := by
  refine ⟨rfl, by simp only [recordUnit]; omega, ?_, ?_, rfl, rfl⟩
  · intro m below status notSent before
    have other : p.unitId m ≠ p.unitId p.nextSeq := by
      intro same
      have equal := p.unitId_injective same
      omega
    rw [WorkTracker.status, find_recordUnit, if_neg other]
    exact before
  · intro id done
    rw [WorkTracker.status, find_recordUnit] at done
    split at done
    next => cases done
    next => exact done

theorem keeps_dispatchLoop (plugin : TestPlugin σ) (env : DispatchEnv) (consumerId : String)
    (remaining i : Nat) (p : Producer σ) :
    p.Keeps (p.dispatchLoop plugin env consumerId remaining i).producer :=
  dispatchLoop_preserves plugin env consumerId p.Keeps
    (fun _ _ kept => kept.trans (.of_same rfl rfl rfl rfl rfl))
    (fun q state timestamp job _ kept =>
      kept.trans (keeps_recordUnit q state timestamp consumerId job)) remaining i (.refl p)

end Producer

namespace World

theorem keeps_adopt (w : World σ) (n : Nat) (c : Connection) (consumerId : String) :
    w.producer.Keeps (w.adopt n c consumerId) := by
  unfold adopt
  split
  · exact Producer.keeps_register ..
  · exact .refl _

theorem keeps_handshakeFrame (w : World σ) (n : Nat) (c : Connection) (j : Json)
    (env : HandlerEnv) : w.producer.Keeps (w.handshakeFrame n c j env).producer := by
  unfold handshakeFrame
  split
  next => exact .refl _
  next =>
    split
    next => exact .refl _
    next =>
      split
      · split
        · exact .refl _
        · exact Producer.keeps_register ..
      · exact .refl _
  next => exact .refl _

theorem keeps_loopFrame (w : World σ) (n : Nat) (c : Connection) (j : Json) (env : HandlerEnv)
    (noResult : msgType j ≠ .ok "result") :
    w.producer.Keeps (w.loopFrame plugin n c j env).producer := by
  unfold loopFrame
  split
  next => exact .refl _
  next =>
    split
    next => exact .refl _
    next req _ =>
      have adopted : w.producer.Keeps
          (if c.consumerId = "" then w.producer.registerConsumer req.consumerId n w.clock
            else w.producer) := by
        split
        · exact Producer.keeps_register ..
        · exact .refl _
      exact (adopted.trans (Producer.keeps_touch ..)).trans (Producer.keeps_dispatchLoop ..)
  next isResult => exact absurd isResult noResult
  next =>
    split
    next => exact .refl _
    next hb _ => exact (keeps_adopt w n c hb.consumerId).trans (Producer.keeps_touch ..)
  next => exact .refl _

/-- A result takes its effect behind what comes before it in the loop. -/
theorem loopFrame_result (w : World σ) (n : Nat) (c : Connection) (result : ResultMessage)
    (env : HandlerEnv) :
    ∃ p, w.producer.Keeps p ∧
      (w.loopFrame plugin n c result.toJson env).producer =
        p.handleResult { result with seq := toInt32 result.seq } := by
  have kind : msgType result.toJson = .ok "result" := rfl
  unfold loopFrame
  rw [kind]
  dsimp only
  rw [ResultMessage.fromJson_toJson]
  exact ⟨_, (keeps_adopt (w.receive (.tcp n) result.toJson) n c result.consumerId).trans
    (Producer.keeps_touch ..), rfl⟩

/-- The frame that the event brings, if it brings one, is no result. -/
def NoResult : Event → Prop
  | .frame _ j _ => msgType j ≠ .ok "result"
  | .datagram .. => False
  | _ => True

theorem keeps_step {w after : World σ} {event : Event} (noResult : NoResult event)
    (taken : (producerSystem plugin).step w event = some after) :
    w.producer.Keeps after.producer := by
  cases world_step taken with
  | handshake n c j env => exact keeps_handshakeFrame w n c j env
  | inLoop n c j env => exact keeps_loopFrame w n c j env noResult
  | datagram => exact noResult.elim
  | reclaim n c =>
    dsimp only [setConnection, setProducer]
    split
    · exact .refl _
    · exact Producer.keeps_reclaim ..
  | unregister n c =>
    dsimp only [setConnection, setProducer]
    split
    · exact .refl _
    · exact Producer.keeps_unregister ..
  | monitorEvict consumerId rest _ stale evicted =>
    rw [producer_evict evicted]
    exact (Producer.keeps_reclaim ..).trans (Producer.keeps_unregister ..)
  | accept | broken | loopTest | tick | monitorScan => exact .refl _
  | stop => exact .of_same rfl rfl rfl rfl rfl

/-! ## Connections whose first frame has been read -/

def Entered (w : World σ) (n : Nat) : Prop :=
  ∃ c, w.connections n = some c ∧ c.stage ≠ .handshake

theorem entered_handshakeFrame (w : World σ) (n : Nat) (c : Connection) (j : Json)
    (env : HandlerEnv) : (w.handshakeFrame n c j env).Entered n := by
  have here (w : World σ) (c : Connection) (stage : c.stage ≠ .handshake) :
      (w.setConnection n c).Entered n := ⟨c, Function.update_self .., stage⟩
  unfold handshakeFrame
  split
  next => exact here _ _ nofun
  next =>
    split
    next => exact here _ _ nofun
    next =>
      split
      · split
        · exact here _ _ nofun
        · exact here _ _ nofun
      · exact here _ _ nofun
  next => exact here _ _ nofun

theorem entered_loopFrame (w : World σ) (n : Nat) (c : Connection) (j : Json) (env : HandlerEnv) :
    (w.loopFrame plugin n c j env).Entered n := by
  have here (w : World σ) (c : Connection) (stage : c.stage ≠ .handshake) :
      (w.setConnection n c).Entered n := ⟨c, Function.update_self .., stage⟩
  have behind (ended : DispatchEnd) : stageAfter ended ≠ .handshake := by cases ended <;> nofun
  unfold loopFrame
  split
  next => exact here _ _ nofun
  next =>
    split
    next => exact here _ _ nofun
    next => exact here _ _ (behind _)
  next => split <;> exact here _ _ nofun
  next => split <;> exact here _ _ nofun
  next => exact here _ _ nofun

/-- No thread goes back to the handshake. -/
theorem entered_step {w after : World σ} {event : Event} {n : Nat} (entered : w.Entered n)
    (taken : (producerSystem plugin).step w event = some after) : after.Entered n := by
  obtain ⟨c, present, stage⟩ := entered
  by_cases own : event.connection = some n
  · have here (w : World σ) (c : Connection) (stage : c.stage ≠ .handshake) :
        (w.setConnection n c).Entered n := ⟨c, Function.update_self .., stage⟩
    cases world_step taken with
    | accept m absent =>
      cases own
      rw [present] at absent
      cases absent
    | handshake m c j env =>
      cases own
      exact entered_handshakeFrame ..
    | inLoop m c j env =>
      cases own
      exact entered_loopFrame ..
    | broken | reclaim | unregister =>
      cases own
      exact here _ _ nofun
    | loopTest m c =>
      cases own
      refine here _ _ ?_
      dsimp only
      split <;> nofun
    | datagram | tick | monitorScan | monitorEvict | stop => cases own
  · obtain same | ⟨c', before, after⟩ := connections_step own taken
    · exact ⟨c, same.trans present, stage⟩
    · rw [present] at before
      cases before
      exact ⟨_, after, stage⟩

end World

end PnC.Source
