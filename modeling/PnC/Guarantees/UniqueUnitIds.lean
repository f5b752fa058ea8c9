import PnC.Source.DispatchInterleaving
import PnC.Source.EchoPlugin
import PnC.Source.ProducerSteps

/-!
# Unique work unit ids

An id is formed from next_seq_ at the top of the loop body and next_seq_ moves on at
its end. Ids are unique in every run in which no handler reads next_seq_ while another
one is in between; nothing in the producer keeps the handlers apart.
-/
namespace PnC.Guarantees.UniqueUnitIds

open PnC.Library PnC.Source

variable {σ : Type}

/-- The id of a handler that has read next_seq_ and not yet incremented it. -/
def inFlight : Phase → Option String
  | .read msg | .generated msg | .pending msg | .marked msg => some msg.workUnitId
  | .between | .counted _ | .left | .stuck => none

/-- The id of a unit that is recorded and not yet sent. -/
def unsent : Phase → Option String
  | .pending msg | .marked msg | .counted msg => some msg.workUnitId
  | .between | .read _ | .generated _ | .left | .stuck => none

def ids (msgs : List WorkUnitMessage) : List String := msgs.map (·.workUnitId)

/-- Every unit that add_pending was called for has an entry of its own. -/
def Tracked (s : Dispatching σ) : Prop :=
  ∀ msg ∈ s.recorded, ∃ e, s.producer.tracker.find msg.workUnitId = some e ∧
    e.seq = msg.seq ∧ e.job = msg.job

/-- No id was sent twice, and no unit was recorded over another one. -/
structure Unique (s : Dispatching σ) : Prop where
  sent : (ids s.sent).Nodup
  recorded : (ids s.recorded).Nodup
  tracked : Tracked s

/-- The handlers take turns between the read and the increment of next_seq_. -/
def TakesTurn (s : Dispatching σ) : DispatchEvent → Prop
  | .readSeq _ _ => ∀ other, inFlight (s.handlers other).phase = none
  | _ => True

structure Serial (s : Dispatching σ) : Prop where
  alone : ∀ h h' id id', inFlight (s.handlers h).phase = some id →
    inFlight (s.handlers h').phase = some id' → h = h'
  current : ∀ h id, inFlight (s.handlers h).phase = some id →
    id = s.producer.unitId s.producer.nextSeq
  issued : ∀ id ∈ ids s.recorded, (∃ k < s.producer.nextSeq, id = s.producer.unitId k) ∨
    ∃ h, inFlight (s.handlers h).phase = some id ∧ unsent (s.handlers h).phase = some id
  recorded : (ids s.recorded).Nodup
  queued : ∀ h id, unsent (s.handlers h).phase = some id → id ∈ ids s.recorded ∧ id ∉ ids s.sent
  apart : ∀ h h' id, unsent (s.handlers h).phase = some id →
    unsent (s.handlers h').phase = some id → h = h'
  sentRecorded : ∀ id ∈ ids s.sent, id ∈ ids s.recorded
  sent : (ids s.sent).Nodup

theorem at_update {f : Phase → Option String} {handlers : Nat → Handler} {h k : Nat}
    {handler : Handler} {id : String}
    (found : f (Function.update handlers h handler k).phase = some id) :
    (k = h ∧ f handler.phase = some id) ∨ (k ≠ h ∧ f (handlers k).phase = some id) := by
  by_cases same : k = h
  · rw [same, Function.update_self] at found
    exact Or.inl ⟨same, found⟩
  · rw [Function.update_of_ne same] at found
    exact Or.inr ⟨same, found⟩

/-- An id that a changed handler did not take was there before. -/
theorem held_before {f : Phase → Option String} {handlers : Nat → Handler} {h k : Nat}
    {handler : Handler} {id : String}
    (kept : f handler.phase = some id → f (handlers h).phase = some id)
    (found : f (Function.update handlers h handler k).phase = some id) :
    f (handlers k).phase = some id := by
  rcases at_update found with ⟨same, now⟩ | ⟨-, before⟩
  · rw [same]
    exact kept now
  · exact before

/-- An id that a changed handler no longer has is another handler's. -/
theorem held_without {f : Phase → Option String} {handlers : Nat → Handler} {h k : Nat}
    {handler : Handler} {id : String} (without : f handler.phase = none)
    (found : f (Function.update handlers h handler k).phase = some id) :
    f (handlers k).phase = some id :=
  held_before (fun now => by rw [without] at now; cases now) found

/-- A change of one handler that neither takes an id nor passes one on. -/
theorem Serial.move {s t : Dispatching σ} (serial : Serial s) {h : Nat} {handler : Handler}
    (handlers : t.handlers = Function.update s.handlers h handler)
    (inFlightKept : ∀ id, inFlight handler.phase = some id →
      inFlight (s.handlers h).phase = some id)
    (unsentKept : ∀ id, unsent handler.phase = some id → unsent (s.handlers h).phase = some id)
    (bothKept : ∀ id, inFlight (s.handlers h).phase = some id →
      unsent (s.handlers h).phase = some id →
        inFlight handler.phase = some id ∧ unsent handler.phase = some id)
    (nextSeq : t.producer.nextSeq = s.producer.nextSeq)
    (unitId : t.producer.unitId = s.producer.unitId)
    (recorded : t.recorded = s.recorded) (sent : t.sent = s.sent) : Serial t := by
  constructor
  case alone =>
    rw [handlers]
    exact fun k k' id id' one other => serial.alone k k' id id'
      (held_before (inFlightKept id) one) (held_before (inFlightKept id') other)
  case current =>
    rw [unitId, nextSeq, handlers]
    exact fun k id flying => serial.current k id (held_before (inFlightKept id) flying)
  case issued =>
    rw [unitId, nextSeq, recorded, handlers]
    intro id member
    refine (serial.issued id member).imp_right ?_
    rintro ⟨k, flying, waiting⟩
    refine ⟨k, ?_⟩
    by_cases same : k = h
    · rw [same, Function.update_self]
      rw [same] at flying waiting
      exact bothKept id flying waiting
    · rw [Function.update_of_ne same]
      exact ⟨flying, waiting⟩
  case recorded =>
    rw [recorded]
    exact serial.recorded
  case queued =>
    rw [recorded, sent, handlers]
    exact fun k id waiting => serial.queued k id (held_before (unsentKept id) waiting)
  case apart =>
    rw [handlers]
    exact fun k k' id one other => serial.apart k k' id
      (held_before (unsentKept id) one) (held_before (unsentKept id) other)
  case sentRecorded =>
    rw [recorded, sent]
    exact serial.sentRecorded
  case sent =>
    rw [sent]
    exact serial.sent

/-- With no other handler in flight, next_seq_ may be read. -/
theorem serial_readSeq {s : Dispatching σ} (serial : Serial s) {h : Nat}
    (free : ∀ other, inFlight (s.handlers other).phase = none) (timestamp : String) :
    Serial (s.setPhase h (.read (s.producer.unitMessage timestamp .null))) := by
  have grounded : ∀ k id, inFlight (s.handlers k).phase ≠ some id := by
    intro k id flying
    rw [free k] at flying
    cases flying
  constructor
  case alone =>
    intro k k' id id' one other
    rcases at_update one with ⟨same, -⟩ | ⟨-, before⟩
    · rcases at_update other with ⟨same', -⟩ | ⟨-, before'⟩
      · exact same.trans same'.symm
      · exact absurd before' (grounded k' id')
    · exact absurd before (grounded k id)
  case current =>
    intro k id flying
    rcases at_update flying with ⟨-, now⟩ | ⟨-, before⟩
    · exact (Option.some.inj now).symm
    · exact absurd before (grounded k id)
  case issued =>
    intro id member
    rcases serial.issued id member with below | ⟨k, flying, -⟩
    · exact Or.inl below
    · exact absurd flying (grounded k id)
  case recorded => exact serial.recorded
  case queued => exact fun k id waiting => serial.queued k id (held_without rfl waiting)
  case apart =>
    exact fun k k' id one other =>
      serial.apart k k' id (held_without rfl one) (held_without rfl other)
  case sentRecorded => exact serial.sentRecorded
  case sent => exact serial.sent

/-- The id under which a unit is about to be recorded is not in use. -/
theorem Serial.fresh {s : Dispatching σ} (serial : Serial s) {h : Nat} {msg : WorkUnitMessage}
    (phase : (s.handlers h).phase = .generated msg) : msg.workUnitId ∉ ids s.recorded := by
  have flying : inFlight (s.handlers h).phase = some msg.workUnitId := by rw [phase]; rfl
  intro member
  rcases serial.issued _ member with ⟨k, below, numbered⟩ | ⟨other, otherFlying, waiting⟩
  · have same := s.producer.unitId_injective (numbered.symm.trans (serial.current h _ flying))
    omega
  · rw [← serial.alone h other _ _ flying otherFlying, phase] at waiting
    cases waiting

theorem serial_addPending {s : Dispatching σ} (serial : Serial s) {h : Nat}
    {msg : WorkUnitMessage} (phase : (s.handlers h).phase = .generated msg)
    (tracker : WorkTracker) :
    Serial (({ s with recorded := msg :: s.recorded }.setProducer
      { s.producer with tracker := tracker }).setPhase h (.pending msg)) := by
  have flying : inFlight (s.handlers h).phase = some msg.workUnitId := by rw [phase]; rfl
  have fresh := serial.fresh phase
  have same : ∀ id, inFlight (Phase.pending msg) = some id →
      inFlight (s.handlers h).phase = some id := fun _ now => flying.trans now
  constructor
  case alone =>
    exact fun k k' id id' one other => serial.alone k k' id id'
      (held_before (same id) one) (held_before (same id') other)
  case current => exact fun k id found => serial.current k id (held_before (same id) found)
  case issued =>
    intro id member
    rcases List.mem_cons.mp member with rfl | member
    · exact Or.inr ⟨h, by simp [Dispatching.setPhase, Dispatching.setHandler, inFlight, unsent]⟩
    · refine (serial.issued id member).imp_right ?_
      rintro ⟨k, otherFlying, waiting⟩
      rw [← serial.alone h k _ _ flying otherFlying, phase] at waiting
      cases waiting
  case recorded => exact List.nodup_cons.mpr ⟨fresh, serial.recorded⟩
  case queued =>
    intro k id waiting
    rcases at_update waiting with ⟨-, now⟩ | ⟨-, before⟩
    · rw [← Option.some.inj now]
      exact ⟨List.mem_cons_self, fun sent => fresh (serial.sentRecorded _ sent)⟩
    · obtain ⟨member, notSent⟩ := serial.queued k id before
      exact ⟨List.mem_cons_of_mem _ member, notSent⟩
  case apart =>
    intro k k' id one other
    rcases at_update one with ⟨here, now⟩ | ⟨-, before⟩ <;>
      rcases at_update other with ⟨here', now'⟩ | ⟨-, before'⟩
    · exact here.trans here'.symm
    · exact absurd (Option.some.inj now ▸ (serial.queued k' id before').1) fresh
    · exact absurd (Option.some.inj now' ▸ (serial.queued k id before).1) fresh
    · exact serial.apart k k' id before before'
  case sentRecorded =>
    exact fun id member => List.mem_cons_of_mem _ (serial.sentRecorded id member)
  case sent => exact serial.sent

theorem serial_incrementSeq {s : Dispatching σ} (serial : Serial s) {h : Nat}
    {msg : WorkUnitMessage} (phase : (s.handlers h).phase = .marked msg) :
    Serial ((s.setProducer { s.producer with nextSeq := s.producer.nextSeq + 1 }).setPhase
      h (.counted msg)) := by
  have flying : inFlight (s.handlers h).phase = some msg.workUnitId := by rw [phase]; rfl
  have landed : ∀ k id,
      inFlight (Function.update s.handlers h { s.handlers h with phase := .counted msg } k).phase ≠
        some id := by
    intro k id found
    rcases at_update found with ⟨-, now⟩ | ⟨other, before⟩
    · cases now
    · exact other (serial.alone k h _ _ before flying)
  have waits : ∀ id, unsent (Phase.counted msg) = some id →
      unsent (s.handlers h).phase = some id := by
    intro id now
    rw [phase]
    exact now
  constructor
  case alone => exact fun k _ id _ one => absurd one (landed k id)
  case current => exact fun k id found => absurd found (landed k id)
  case issued =>
    intro id member
    refine Or.inl ?_
    rcases serial.issued id member with ⟨k, below, numbered⟩ | ⟨k, otherFlying, -⟩
    · exact ⟨k, Int.lt_add_one_of_le (Int.le_of_lt below), numbered⟩
    · exact ⟨s.producer.nextSeq, Int.lt_succ _, serial.current k id otherFlying⟩
  case recorded => exact serial.recorded
  case queued => exact fun k id waiting => serial.queued k id (held_before (waits id) waiting)
  case apart =>
    exact fun k k' id one other =>
      serial.apart k k' id (held_before (waits id) one) (held_before (waits id) other)
  case sentRecorded => exact serial.sentRecorded
  case sent => exact serial.sent

theorem serial_send {s : Dispatching σ} (serial : Serial s) {h : Nat} {msg : WorkUnitMessage}
    (phase : (s.handlers h).phase = .counted msg) (remaining : Nat) :
    Serial ({ s with sent := msg :: s.sent }.setHandler h
      { s.handlers h with remaining := remaining, phase := .between }) := by
  have waits : unsent (s.handlers h).phase = some msg.workUnitId := by rw [phase]; rfl
  obtain ⟨member, notSent⟩ := serial.queued h _ waits
  constructor
  case alone =>
    exact fun k k' id id' one other =>
      serial.alone k k' id id' (held_without rfl one) (held_without rfl other)
  case current => exact fun k id found => serial.current k id (held_without rfl found)
  case issued =>
    intro id recorded
    refine (serial.issued id recorded).imp_right ?_
    rintro ⟨k, flying, waiting⟩
    have other : k ≠ h := by
      intro same
      rw [same, phase] at flying
      cases flying
    refine ⟨k, ?_⟩
    simp only [Dispatching.setHandler, Function.update_of_ne other]
    exact ⟨flying, waiting⟩
  case recorded => exact serial.recorded
  case queued =>
    intro k id found
    rcases at_update found with ⟨-, now⟩ | ⟨other, waiting⟩
    · cases now
    · obtain ⟨recorded, before⟩ := serial.queued k id waiting
      refine ⟨recorded, fun now => ?_⟩
      rcases List.mem_cons.mp now with same | now
      · rw [same] at waiting
        exact other (serial.apart k h _ waiting waits)
      · exact before now
  case apart =>
    exact fun k k' id one other =>
      serial.apart k k' id (held_without rfl one) (held_without rfl other)
  case sentRecorded =>
    intro id now
    rcases List.mem_cons.mp now with same | now
    · rw [same]
      exact member
    · exact serial.sentRecorded id now
  case sent => exact List.nodup_cons.mpr ⟨notSent, serial.sent⟩

/-- A handler that holds no id may move to any place where it holds none. -/
theorem Serial.rest {s t : Dispatching σ} (serial : Serial s) {h : Nat} {handler : Handler}
    (handlers : t.handlers = Function.update s.handlers h handler)
    (empty : inFlight handler.phase = none ∧ unsent handler.phase = none)
    (before : inFlight (s.handlers h).phase = none ∨ unsent (s.handlers h).phase = none)
    (nextSeq : t.producer.nextSeq = s.producer.nextSeq)
    (unitId : t.producer.unitId = s.producer.unitId)
    (recorded : t.recorded = s.recorded) (sent : t.sent = s.sent) : Serial t := by
  refine serial.move handlers ?_ ?_ ?_ nextSeq unitId recorded sent
  · intro id now
    rw [empty.1] at now
    cases now
  · intro id now
    rw [empty.2] at now
    cases now
  · intro id flying waiting
    rcases before with none | none
    · rw [none] at flying
      cases flying
    · rw [none] at waiting
      cases waiting

theorem serial_afterNextUnit {s : Dispatching σ} (serial : Serial s) {h : Nat}
    {msg : WorkUnitMessage} (phase : (s.handlers h).phase = .read msg) (outcome : NextUnit σ) :
    Serial (s.afterNextUnit h msg outcome) := by
  have unrecorded : unsent (s.handlers h).phase = none := by
    rw [phase]
    rfl
  cases outcome with
  | exhausted | threw | stuck =>
    exact serial.rest rfl ⟨rfl, rfl⟩ (Or.inr unrecorded) rfl rfl rfl rfl
  | unit state job =>
    refine serial.move rfl ?_ (fun _ => nofun) ?_ rfl rfl rfl rfl
    · intro id now
      rw [phase]
      exact now
    · intro id _ waiting
      rw [unrecorded] at waiting
      cases waiting

theorem serial_step {plugin : TestPlugin σ} {s t : Dispatching σ} {event : DispatchEvent}
    (serial : Serial s) (turn : TakesTurn s event)
    (taken : (dispatchSystem plugin).step s event = some t) : Serial t := by
  cases event with
  | request h req =>
    simp only [dispatchSystem] at taken
    split at taken
    next consumerId between =>
      cases taken
      exact serial.rest rfl ⟨rfl, rfl⟩ (Or.inr (by rw [between]; rfl)) rfl rfl rfl rfl
    next => cases taken
  | readSeq h timestamp =>
    simp only [dispatchSystem] at taken
    split at taken
    next =>
      cases taken
      exact serial_readSeq serial turn timestamp
    next => cases taken
  | nextUnit h =>
    simp only [dispatchSystem] at taken
    split at taken
    next msg phase =>
      cases taken
      exact serial_afterNextUnit serial phase _
    next => cases taken
  | addPending h =>
    simp only [dispatchSystem] at taken
    split at taken
    next msg phase =>
      cases taken
      exact serial_addPending serial phase _
    next => cases taken
  | markSent h =>
    simp only [dispatchSystem] at taken
    split at taken
    next msg phase =>
      cases taken
      refine serial.move rfl ?_ ?_ ?_ rfl rfl rfl rfl <;> rw [phase]
      · exact fun _ now => now
      · exact fun _ now => now
      · exact fun _ flying waiting => ⟨flying, waiting⟩
    next => cases taken
  | incrementSeq h =>
    simp only [dispatchSystem] at taken
    split at taken
    next msg phase =>
      cases taken
      exact serial_incrementSeq serial phase
    next => cases taken
  | send h ok =>
    simp only [dispatchSystem] at taken
    split at taken
    next msg phase =>
      split at taken
      · cases taken
        exact serial_send serial phase _
      · cases taken
        exact serial.rest rfl ⟨rfl, rfl⟩ (Or.inl (by rw [phase]; rfl)) rfl rfl rfl rfl
    next => cases taken
  | result msg =>
    cases taken
    obtain ⟨nextSeq, producerId, -, -⟩ := frame_handleResult s.producer msg
    have unitId : (s.producer.handleResult msg).unitId = s.producer.unitId := by
      unfold Producer.unitId
      rw [producerId]
    obtain ⟨alone, current, issued, recorded, queued, apart, sentRecorded, sent⟩ := serial
    rw [← nextSeq, ← unitId] at current issued
    exact ⟨alone, current, issued, recorded, queued, apart, sentRecorded, sent⟩
  | reclaim consumerId =>
    cases taken
    obtain ⟨alone, current, issued, recorded, queued, apart, sentRecorded, sent⟩ := serial
    exact ⟨alone, current, issued, recorded, queued, apart, sentRecorded, sent⟩

/-! ## The tracker -/

/-- Later updates of an entry keep the unit it stands for. -/
theorem Tracked.kept {s t : Dispatching σ} (tracked : Tracked s) (recorded : t.recorded = s.recorded)
    (kept : ∀ id e, s.producer.tracker.find id = some e →
      ∃ e', t.producer.tracker.find id = some e' ∧ e'.seq = e.seq ∧ e'.job = e.job) :
    Tracked t := by
  intro msg member
  rw [recorded] at member
  obtain ⟨e, found, seq, job⟩ := tracked msg member
  obtain ⟨e', found', seq', job'⟩ := kept _ e found
  exact ⟨e', found', seq'.trans seq, job'.trans job⟩

theorem kept_update {t : WorkTracker} (target : String) {f : WorkUnitEntry → WorkUnitEntry}
    (same : ∀ e, (f e).seq = e.seq ∧ (f e).job = e.job) {id : String} {e : WorkUnitEntry}
    (found : t.find id = some e) :
    ∃ e', (if id = target then (t.find target).map f else t.find id) = some e' ∧
      e'.seq = e.seq ∧ e'.job = e.job := by
  by_cases here : id = target
  · rw [if_pos here, ← here, found]
    exact ⟨f e, rfl, same e⟩
  · rw [if_neg here]
    exact ⟨e, found, rfl, rfl⟩

theorem tracked_step {plugin : TestPlugin σ} {s t : Dispatching σ} {event : DispatchEvent}
    (serial : Serial s) (tracked : Tracked s)
    (taken : (dispatchSystem plugin).step s event = some t) : Tracked t := by
  cases event with
  | request | readSeq | incrementSeq =>
    simp only [dispatchSystem] at taken
    split at taken
    · cases taken
      exact tracked
    · cases taken
  | nextUnit h =>
    simp only [dispatchSystem] at taken
    split at taken
    next msg _ =>
      cases taken
      cases plugin.nextUnit s.producer.plugin <;> exact tracked
    next => cases taken
  | addPending h =>
    simp only [dispatchSystem] at taken
    split at taken
    next msg phase =>
      cases taken
      have fresh := serial.fresh phase
      intro other member
      rcases List.mem_cons.mp member with rfl | member
      · exact ⟨_, (WorkTracker.find_addPending ..).trans (if_pos rfl), rfl, rfl⟩
      · obtain ⟨e, found, kept⟩ := tracked other member
        have different : other.workUnitId ≠ msg.workUnitId := by
          intro same
          exact fresh (same ▸ List.mem_map_of_mem member)
        exact ⟨e, (WorkTracker.find_addPending ..).trans ((if_neg different).trans found), kept⟩
    next => cases taken
  | markSent h =>
    simp only [dispatchSystem] at taken
    split at taken
    next msg _ =>
      cases taken
      refine tracked.kept rfl fun id e found => ?_
      obtain ⟨e', found', kept⟩ := kept_update msg.workUnitId
        (f := WorkTracker.toSent (s.handlers h).consumerId) (fun _ => ⟨rfl, rfl⟩) found
      exact ⟨e', (WorkTracker.find_markSent ..).trans found', kept⟩
    next => cases taken
  | send h ok =>
    simp only [dispatchSystem] at taken
    split at taken
    next =>
      split at taken
      · cases taken
        exact tracked
      · cases taken
        exact tracked
    next => cases taken
  | result msg =>
    cases taken
    refine tracked.kept rfl fun id e found => ?_
    obtain ⟨e', found', kept⟩ := kept_update msg.workUnitId
      (f := if msg.status = "success" then WorkTracker.toCompleted else WorkTracker.toPending)
      (fun _ => by split <;> exact ⟨rfl, rfl⟩) found
    exact ⟨e', (find_handleResult ..).trans found', kept⟩
  | reclaim consumerId =>
    cases taken
    refine tracked.kept rfl fun id e found => ?_
    refine ⟨WorkTracker.reclaim consumerId e, ?_, ?_⟩
    · exact (find_reclaimConsumer ..).trans (congrArg _ found)
    · unfold WorkTracker.reclaim
      split <;> exact ⟨rfl, rfl⟩

/-! ## Runs -/

theorem serial_idle (p : Producer σ) : Serial (Dispatching.idle p) where
  alone _ _ _ _ one := by cases one
  current _ _ flying := by cases flying
  issued _ member := by cases member
  recorded := List.nodup_nil
  queued _ _ waiting := by cases waiting
  apart _ _ _ one := by cases one
  sentRecorded _ member := by cases member
  sent := List.nodup_nil

/-- Any number of handlers, any requests: as long as they take turns, no id is sent
twice and no unit is recorded over another one. -/
theorem unique_ids (plugin : TestPlugin σ) (p : Producer σ) (events : List DispatchEvent)
    (s : Dispatching σ)
    (turns : (dispatchSystem plugin).Along (fun s event _ => TakesTurn s event)
      (Dispatching.idle p) events)
    (reached : (dispatchSystem plugin).run (Dispatching.idle p) events = some s) : Unique s := by
  obtain ⟨serial, tracked⟩ : Serial s ∧ Tracked s :=
    TransitionSystem.run_invariant (fun s => Serial s ∧ Tracked s)
      (fun _ _ _ ⟨serial, tracked⟩ turn taken =>
        ⟨serial_step serial turn taken, tracked_step serial tracked taken⟩)
      ⟨serial_idle p, fun _ member => by cases member⟩ turns reached
  exact ⟨serial.sent, serial.recorded, tracked⟩

def asked : List DispatchEvent := [.request 0 ⟨"cons-1", 1, ""⟩, .request 1 ⟨"cons-2", 1, ""⟩]

/-- The first handler is through before the second one begins. -/
def oneByOne : List DispatchEvent :=
  asked ++ Dispatching.bodyEvents 0 "" true ++ Dispatching.bodyEvents 1 "" true

theorem unique_ids_one_by_one :
    ∃ s, (dispatchSystem createEchoPlugin).run (.idle echoStart) oneByOne = some s ∧
      ids s.sent = ["prod-1-1", "prod-1-0"] ∧ Unique s := by
  refine ⟨_, rfl, by decide +kernel, ?_⟩
  refine unique_ids createEchoPlugin echoStart oneByOne _ ?_ rfl
  iterate 2
    rintro _ ⟨⟩
    refine ⟨trivial, ?_⟩
  iterate 2
    rintro _ ⟨⟩
    refine ⟨fun | 0 | 1 | _ + 2 => rfl, ?_⟩
    iterate 5
      rintro _ ⟨⟩
      refine ⟨trivial, ?_⟩
  trivial

/-- Both handlers read next_seq_ before either increments it. -/
def bothRead : List DispatchEvent :=
  asked ++ [.readSeq 0 "", .readSeq 1 "", .nextUnit 0, .nextUnit 1, .addPending 0, .addPending 1,
    .markSent 0, .markSent 1, .incrementSeq 0, .incrementSeq 1, .send 0 true, .send 1 true]

/-- Two units go out under one id, and the tracker keeps one entry for both. -/
theorem both_read_collide :
    (∃ s, (dispatchSystem createEchoPlugin).run (.idle echoStart) bothRead = some s ∧
      ids s.sent = ["prod-1-0", "prod-1-0"] ∧ s.producer.tracker.entries.items.length = 1) ∧
    ¬ ∀ (events : List DispatchEvent) (s : Dispatching EchoState),
      (dispatchSystem createEchoPlugin).run (.idle echoStart) events = some s → Unique s := by
  have replay : ∃ s, (dispatchSystem createEchoPlugin).run (.idle echoStart) bothRead = some s ∧
      ids s.sent = ["prod-1-0", "prod-1-0"] ∧ s.producer.tracker.entries.items.length = 1 :=
    ⟨_, rfl, by decide +kernel, by decide +kernel⟩
  refine ⟨replay, fun claimed => ?_⟩
  obtain ⟨s, reached, sent, -⟩ := replay
  have distinct := (claimed bothRead s reached).sent
  rw [sent] at distinct
  simp at distinct

end PnC.Guarantees.UniqueUnitIds
