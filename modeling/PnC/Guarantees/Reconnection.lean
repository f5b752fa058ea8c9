import PnC.Source.EchoPlugin
import PnC.Source.ProducerSteps

/-!
# Reconnection under the same id

register_consumer lets a newer connection take over an id. The teardown of the older
one goes by the id alone: it reclaims every unit held under it and erases its entry,
whichever connection they belong to by then.
-/
namespace PnC.Guarantees.Reconnection

open PnC.Library PnC.Source

variable {σ : Type}

/-- The entry of the id points at the connection, so it has been registered there, and
on no other connection since. -/
def RegisteredOn (p : Producer σ) (consumerId : String) (n : Nat) : Prop :=
  ∃ info, p.connectedConsumers.find consumerId = some info ∧ info.socket = some n

/-- The unit was sent for connection `n` and is Sent. -/
def OutstandingOn (w : World σ) (n : Nat) (id : String) : Prop :=
  ∃ c, w.connections n = some c ∧ id ∈ c.generated ∧
    w.producer.tracker.status id = some .sent

/-- If the step is one of the two of `a`'s teardown, the entries that point at `b` stay,
and so do the units that are outstanding on `b`. -/
def SafeTeardown (a b : Nat) (w : World σ) (event : Event) (after : World σ) : Prop :=
  event = .reclaim a ∨ event = .unregister a →
    (∀ consumerId, RegisteredOn w.producer consumerId b →
      RegisteredOn after.producer consumerId b) ∧
    ∀ id, OutstandingOn w b id → OutstandingOn after b id

/-- At `a`'s reclaim no unit outstanding on `b` is held under `a`'s id, and at `a`'s
unregister the entry of `a`'s id does not point at `b`. -/
def Apart (a b : Nat) (w : World σ) (event : Event) : Prop :=
  ∀ c, w.connections a = some c → c.consumerId ≠ "" →
    (event = .reclaim a → ∀ id, OutstandingOn w b id → ∀ e, w.producer.tracker.find id = some e →
      e.consumerId ≠ c.consumerId) ∧
    (event = .unregister a → ¬ RegisteredOn w.producer c.consumerId b)

/-! ## The two steps of a teardown -/

/-- A Sent unit is taken back exactly when it is held by the consumer. -/
theorem status_reclaimConsumer {p : Producer σ} {id : String} {e : WorkUnitEntry}
    (found : p.tracker.find id = some e) (sent : e.status = .sent) (consumerId : String) :
    (p.reclaimConsumer consumerId).tracker.status id = some .sent ↔ e.consumerId ≠ consumerId := by
  unfold WorkTracker.status
  rw [find_reclaimConsumer, found, Option.map_some, Option.map_some]
  unfold WorkTracker.reclaim WorkTracker.isHeldBy
  by_cases held : e.consumerId = consumerId <;> simp [sent, held]

theorem reclaim_step {plugin : TestPlugin σ} {w after : World σ} {a : Nat}
    (taken : (producerSystem plugin).step w (.reclaim a) = some after) :
    ∃ c, w.connections a = some c ∧
      after.connections = Function.update w.connections a (some { c with stage := .reclaimed }) ∧
      after.producer =
        if c.consumerId = "" then w.producer else w.producer.reclaimConsumer c.consumerId := by
  cases world_step taken with
  | reclaim n c present => exact ⟨c, present, rfl, rfl⟩

theorem unregister_step {plugin : TestPlugin σ} {w after : World σ} {a : Nat}
    (taken : (producerSystem plugin).step w (.unregister a) = some after) :
    ∃ c, w.connections a = some c ∧
      after.connections =
        Function.update w.connections a (some { c with stage := .returned, isOpen := false }) ∧
      after.producer =
        if c.consumerId = "" then w.producer else w.producer.unregisterConsumer c.consumerId := by
  cases world_step taken with
  | unregister n c present => exact ⟨c, present, rfl, rfl⟩

/-- What is outstanding on another connection depends on the tracker alone. -/
theorem outstandingOn_update {w after : World σ} {a b : Nat} (other : a ≠ b) {c : Connection}
    (connections : after.connections = Function.update w.connections a (some c)) (id : String) :
    OutstandingOn after b id ↔
      (∃ cb, w.connections b = some cb ∧ id ∈ cb.generated) ∧
        after.producer.tracker.status id = some .sent := by
  unfold OutstandingOn
  rw [connections, Function.update_of_ne (Ne.symm other)]
  constructor
  · rintro ⟨cb, present, member, sent⟩
    exact ⟨⟨cb, present, member⟩, sent⟩
  · rintro ⟨⟨cb, present, member⟩, sent⟩
    exact ⟨cb, present, member, sent⟩

theorem OutstandingOn.entry {w : World σ} {n : Nat} {id : String}
    (outstanding : OutstandingOn w n id) :
    ∃ e, w.producer.tracker.find id = some e ∧ e.status = .sent := by
  obtain ⟨-, -, -, sent⟩ := outstanding
  exact Option.map_eq_some_iff.mp sent

theorem safe_reclaim_iff {plugin : TestPlugin σ} {w after : World σ} {a b : Nat} (other : a ≠ b)
    (taken : (producerSystem plugin).step w (.reclaim a) = some after) :
    SafeTeardown a b w (.reclaim a) after ↔ Apart a b w (.reclaim a) := by
  obtain ⟨c, present, connections, producer⟩ := reclaim_step taken
  have registered : after.producer.connectedConsumers = w.producer.connectedConsumers := by
    rw [producer]
    split <;> rfl
  constructor
  · intro safe c' present' named
    rw [present] at present'
    cases present'
    rw [if_neg named] at producer
    refine ⟨fun _ id outstanding e found => ?_, nofun⟩
    have kept := (outstandingOn_update other connections id).mp
      ((safe (Or.inl rfl)).2 id outstanding)
    obtain ⟨e', found', sent⟩ := outstanding.entry
    rw [found] at found'
    cases found'
    rw [producer] at kept
    exact (status_reclaimConsumer found sent _).mp kept.2
  · intro apart _
    refine ⟨fun consumerId points => ?_, fun id outstanding => ?_⟩
    · unfold RegisteredOn
      rw [registered]
      exact points
    · obtain ⟨e, found, sent⟩ := outstanding.entry
      obtain ⟨cb, here, member, status⟩ := outstanding
      refine (outstandingOn_update other connections id).mpr ⟨⟨cb, here, member⟩, ?_⟩
      rw [producer]
      split
      next => exact status
      next named =>
        exact (status_reclaimConsumer found sent _).mpr
          ((apart c present named).1 rfl id ⟨cb, here, member, status⟩ e found)

theorem safe_unregister_iff {plugin : TestPlugin σ} {w after : World σ} {a b : Nat} (other : a ≠ b)
    (taken : (producerSystem plugin).step w (.unregister a) = some after) :
    SafeTeardown a b w (.unregister a) after ↔ Apart a b w (.unregister a) := by
  obtain ⟨c, present, connections, producer⟩ := unregister_step taken
  constructor
  · intro safe c' present' named
    rw [present] at present'
    cases present'
    rw [if_neg named] at producer
    refine ⟨nofun, fun _ points => ?_⟩
    obtain ⟨info, found, -⟩ := (safe (Or.inr rfl)).1 c.consumerId points
    rw [producer, Producer.unregisterConsumer, KeyedStore.find_erase, if_pos rfl] at found
    cases found
  · intro apart _
    refine ⟨fun consumerId points => ?_, fun id outstanding => ?_⟩
    · rw [producer]
      split
      next => exact points
      next named =>
        have elsewhere : consumerId ≠ c.consumerId := by
          intro same
          rw [same] at points
          exact (apart c present named).2 rfl points
        unfold RegisteredOn Producer.unregisterConsumer
        rw [KeyedStore.find_erase, if_neg elsewhere]
        exact points
    · obtain ⟨cb, here, member, status⟩ := outstanding
      refine (outstandingOn_update other connections id).mpr ⟨⟨cb, here, member⟩, ?_⟩
      rw [producer]
      split <;> exact status

theorem safe_step_iff {plugin : TestPlugin σ} {w after : World σ} {event : Event} {a b : Nat}
    (other : a ≠ b) (taken : (producerSystem plugin).step w event = some after) :
    SafeTeardown a b w event after ↔ Apart a b w event := by
  by_cases reclaims : event = .reclaim a
  · subst reclaims
    exact safe_reclaim_iff other taken
  · by_cases unregisters : event = .unregister a
    · subst unregisters
      exact safe_unregister_iff other taken
    · refine iff_of_true (fun teardown => ?_) (fun c _ _ => ⟨?_, ?_⟩)
      · exact absurd teardown (not_or.mpr ⟨reclaims, unregisters⟩)
      · exact fun same => absurd same reclaims
      · exact fun same => absurd same unregisters

/-- Whenever the run has registered an id on `a` and later on `b`, the steps after that
satisfy the property of `a` and `b`. -/
def AfterReconnection (plugin : TestPlugin σ)
    (property : (a b : Nat) → World σ → Event → World σ → Prop) (start : World σ)
    (events : List Event) : Prop :=
  ∀ first second rest, events = first ++ second ++ rest → ∀ w w' consumerId a b, a ≠ b →
    (producerSystem plugin).run start first = some w → RegisteredOn w.producer consumerId a →
      (producerSystem plugin).run w second = some w' → RegisteredOn w'.producer consumerId b →
        (producerSystem plugin).Along (property a b) w' rest

/-- In every run the teardown of an older connection leaves the entry and the outstanding
units of a newer one under the same id alone exactly when, at each step of the teardown,
they are no longer under the id that the older connection has by then. -/
theorem reconnection_safe_iff (plugin : TestPlugin σ) (job : JobSetup) (nextSeq : Int) (state : σ)
    (events : List Event) :
    AfterReconnection plugin SafeTeardown (World.listening (.started job nextSeq state)) events ↔
      AfterReconnection plugin (fun a b w event _ => Apart a b w event)
        (World.listening (.started job nextSeq state)) events := by
  have same : ∀ a b, a ≠ b → ∀ (w : World σ) rest,
      (producerSystem plugin).Along (SafeTeardown a b) w rest ↔
        (producerSystem plugin).Along (fun w event _ => Apart a b w event) w rest := by
    intro a b other w rest
    apply TransitionSystem.along_iff (fun _ => True)
    · exact fun _ _ _ _ taken => safe_step_iff other taken
    · exact fun _ _ _ _ _ _ => trivial
    · trivial
  constructor
  · intro safe first second rest split w w' consumerId a b other reached older reached' newer
    exact (same a b other w' rest).mp
      (safe first second rest split w w' consumerId a b other reached older reached' newer)
  · intro apart first second rest split w w' consumerId a b other reached older reached' newer
    exact (same a b other w' rest).mpr
      (apart first second rest split w w' consumerId a b other reached older reached' newer)

/-- The consumer connects. -/
def connected : List Event :=
  [.accept 0, .frame 0 (VersionMessage.toJson ⟨pcVersion, "cons-1"⟩) .quiet, .loopTest 0]

/-- It connects again and is sent a unit; the first connection is half-open. -/
def reconnected : List Event :=
  [.accept 1, .frame 1 (VersionMessage.toJson ⟨pcVersion, "cons-1"⟩) .quiet, .loopTest 1,
    .frame 1 (WorkRequestMessage.toJson ⟨"cons-1", 1, ""⟩) .quiet]

/-- The receive timeout of the first connection. -/
def lateTeardown : List Event := [.broken 0, .reclaim 0, .unregister 0]

/-- The late teardown takes back the unit that the second connection is working on and
erases its registration. -/
theorem late_teardown_takes_the_unit :
    ¬ ∀ events, AfterReconnection createEchoPlugin SafeTeardown (World.listening echoStart)
      events := by
  intro claimed
  have along := claimed _ connected reconnected lateTeardown rfl _ _ "cons-1" 0 1 (by decide) rfl
    ⟨_, rfl, rfl⟩ rfl ⟨_, rfl, rfl⟩
  have reclaimed := ((along _ rfl).2 _ rfl).1
  obtain ⟨-, units⟩ := reclaimed (Or.inl rfl)
  obtain ⟨c, present, member, status⟩ := units "prod-1-0" ⟨_, rfl, List.mem_cons_self, rfl⟩
  cases status

end PnC.Guarantees.Reconnection
