import PnC.Source.ConnectionMonitor
import PnC.Source.ProducerRun

/-!
# Evictions of the connection monitor

The scan and each eviction are critical sections of their own. What is evicted is what the
scan has found exactly as long as no other thread has come in between.
-/
namespace PnC.Guarantees.StaleEviction

open PnC.Library PnC.Source

variable {σ : Type}

/-- An eviction removes an entry that is there and was inactive for 30 seconds when the
monitor read the clock, and no consumer that has been active since the scan. -/
def EvictsStale (m : Monitored σ) (event : MonitorEvent) (_ : Monitored σ) : Prop :=
  event = .evict → ∀ now consumerId rest, m.phase = .evicting now (consumerId :: rest) →
    (∃ info, m.producer.connectedConsumers.find consumerId = some info ∧
      info.lastActivity + 30000000000 ≤ now) ∧ consumerId ∉ m.active

/-- The id of an eviction has not been registered, updated or unregistered since the scan. -/
def Uninterrupted (m : Monitored σ) (event : MonitorEvent) (_ : Monitored σ) : Prop :=
  event = .evict → ∀ now consumerId rest, m.phase = .evicting now (consumerId :: rest) →
    consumerId ∉ m.active ∧ consumerId ∉ m.gone

/-- The entry of a stale id is as the scan has found it, or it has been touched: then it is
gone, or its last activity is not before the scan. -/
structure Awaits (m : Monitored σ) (now : Nat) (consumerId : String) : Prop where
  untouched : consumerId ∉ m.active → consumerId ∉ m.gone →
    ∃ info, m.producer.connectedConsumers.find consumerId = some info ∧
      info.lastActivity + 30000000000 ≤ now
  touched : consumerId ∈ m.active ∨ consumerId ∈ m.gone →
    ∀ info, m.producer.connectedConsumers.find consumerId = some info → now ≤ info.lastActivity

def Consistent (m : Monitored σ) : Prop :=
  match m.phase with
  | .sampled now => now ≤ m.clock
  | .evicting now stale =>
    now ≤ m.clock ∧ stale.Nodup ∧ ∀ consumerId ∈ stale, Awaits m now consumerId
  | .sleeping _ | .returned | .erasedEnd => True

/-! ## The other threads -/

/-- A critical section of another thread: it leaves its consumer without an entry or with a
last activity of now. -/
structure Touches (m t : Monitored σ) (consumerId : String) : Prop where
  phase : t.phase = m.phase
  clock : t.clock = m.clock
  elsewhere : ∀ other, other ≠ consumerId →
    t.producer.connectedConsumers.find other = m.producer.connectedConsumers.find other
  fresh : ∀ info, t.producer.connectedConsumers.find consumerId = some info →
    info.lastActivity = m.clock
  noted : consumerId ∈ t.active ∨ consumerId ∈ t.gone
  active : ∀ other, other ≠ consumerId → (other ∈ t.active ↔ other ∈ m.active)
  gone : ∀ other, other ≠ consumerId → (other ∈ t.gone ↔ other ∈ m.gone)

theorem Awaits.touch {m t : Monitored σ} {now : Nat} {consumerId stale : String}
    (awaits : Awaits m now stale) (touches : Touches m t consumerId) (past : now ≤ m.clock) :
    Awaits t now stale := by
  by_cases same : stale = consumerId
  · subst same
    refine ⟨fun notActive notGone => ?_, fun _ info present => ?_⟩
    · exact absurd touches.noted (not_or_intro notActive notGone)
    · rw [touches.fresh info present]
      exact past
  · have entry := touches.elsewhere stale same
    have active := touches.active stale same
    have gone := touches.gone stale same
    constructor
    · rw [active, gone, entry]
      exact awaits.untouched
    · rw [active, gone, entry]
      exact awaits.touched

theorem Consistent.touch {m t : Monitored σ} {consumerId : String} (consistent : Consistent m)
    (touches : Touches m t consumerId) : Consistent t := by
  unfold Consistent at consistent ⊢
  rw [touches.phase, touches.clock]
  cases phase : m.phase with
  | sampled now =>
    rw [phase] at consistent
    exact consistent
  | evicting now stale =>
    rw [phase] at consistent
    obtain ⟨past, unique, awaits⟩ := consistent
    exact ⟨past, unique, fun id member => (awaits id member).touch touches past⟩
  | sleeping | returned | erasedEnd => trivial

theorem mem_cons_of_ne {other consumerId : String} (different : other ≠ consumerId)
    (ids : List String) : other ∈ consumerId :: ids ↔ other ∈ ids := by
  simp [different]

theorem touches_register (m : Monitored σ) (consumerId : String) (socket : Nat) :
    Touches m { m with
      producer := m.producer.registerConsumer consumerId socket m.clock
      active := consumerId :: m.active } consumerId where
  phase := rfl
  clock := rfl
  elsewhere other different := by
    rw [Producer.find_registerConsumer, if_neg different]
  fresh info present := by
    rw [Producer.find_registerConsumer, if_pos rfl] at present
    cases present
    rfl
  noted := .inl List.mem_cons_self
  active other different := mem_cons_of_ne different m.active
  gone _ _ := Iff.rfl

theorem touches_registerUdp (m : Monitored σ) (consumerId address : String) (port : Nat) :
    Touches m { m with
      producer := m.producer.registerConsumerUdp consumerId address port m.clock
      active := consumerId :: m.active } consumerId where
  phase := rfl
  clock := rfl
  elsewhere other different := by
    rw [Producer.find_registerConsumerUdp, if_neg different]
  fresh info present := by
    rw [Producer.find_registerConsumerUdp, if_pos rfl] at present
    cases present
    rfl
  noted := .inl List.mem_cons_self
  active other different := mem_cons_of_ne different m.active
  gone _ _ := Iff.rfl

theorem touches_activity (m : Monitored σ) (consumerId : String) :
    Touches m { m with
      producer := m.producer.updateConsumerActivity consumerId m.clock
      active := consumerId :: m.active } consumerId where
  phase := rfl
  clock := rfl
  elsewhere other different := by
    rw [Producer.updateConsumerActivity, KeyedStore.find_modify, if_neg different]
  fresh info present := by
    rw [Producer.updateConsumerActivity, KeyedStore.find_modify, if_pos rfl] at present
    obtain ⟨before, -, rfl⟩ := Option.map_eq_some_iff.mp present
    rfl
  noted := .inl List.mem_cons_self
  active other different := mem_cons_of_ne different m.active
  gone _ _ := Iff.rfl

theorem touches_unregister (m : Monitored σ) (consumerId : String) :
    Touches m { m with
      producer := m.producer.unregisterConsumer consumerId
      gone := consumerId :: m.gone } consumerId where
  phase := rfl
  clock := rfl
  elsewhere other different := by
    rw [Producer.unregisterConsumer, KeyedStore.find_erase, if_neg different]
  fresh info present := by
    rw [Producer.unregisterConsumer, KeyedStore.find_erase, if_pos rfl] at present
    cases present
  noted := .inr List.mem_cons_self
  active _ _ := Iff.rfl
  gone other different := mem_cons_of_ne different m.gone

/-! ## The monitor -/

/-- The scan has found every id once, and with an old entry. -/
theorem awaits_scan (m : Monitored σ) (now : Nat) (phase : MonitorPhase) :
    (Monitored.staleIds m.producer now).Nodup ∧
      ∀ consumerId ∈ Monitored.staleIds m.producer now,
        Awaits { m with phase := phase, active := [], gone := [] } now consumerId := by
  constructor
  · exact m.producer.connectedConsumers.unique.sublist (List.filter_sublist.map _)
  · intro consumerId member
    obtain ⟨info, found, rfl⟩ := List.mem_map.mp member
    obtain ⟨present, stale⟩ := List.mem_filter.mp found
    have old := (elapsedSeconds_stale now info.lastActivity).mp (of_decide_eq_true stale)
    constructor
    · intro _ _
      exact ⟨info, KeyedStore.find_of_mem present, old⟩
    · rintro (active | gone)
      · cases active
      · cases gone

/-- An eviction leaves the entries of the other stale ids alone. -/
theorem consistent_evict {m : Monitored σ} {now : Nat} {consumerId : String}
    {rest : List String} (consistent : Consistent m)
    (phase : m.phase = .evicting now (consumerId :: rest)) :
    Consistent (m.evict now consumerId rest) := by
  unfold Consistent at consistent
  rw [phase] at consistent
  obtain ⟨past, unique, awaits⟩ := consistent
  obtain ⟨fresh, unique⟩ := List.nodup_cons.mp unique
  unfold Monitored.evict
  split
  next => trivial
  next =>
    refine ⟨past, unique, fun other member => ?_⟩
    have different : other ≠ consumerId := fun same => fresh (same ▸ member)
    obtain ⟨untouched, touched⟩ := awaits other (List.mem_cons_of_mem consumerId member)
    have entry := KeyedStore.find_erase m.producer.connectedConsumers consumerId other
    rw [if_neg different] at entry
    constructor
    · exact entry ▸ untouched
    · exact entry ▸ touched

/-- Time passes, and the stop is noted later. -/
theorem consistent_later {m : Monitored σ} (consistent : Consistent m) {clock : Nat}
    (later : m.clock ≤ clock) (running : Bool) :
    Consistent { m with clock := clock, running := running } := by
  unfold Consistent at consistent ⊢
  dsimp only
  cases phase : m.phase with
  | sampled now =>
    rw [phase] at consistent
    exact Nat.le_trans consistent later
  | evicting now stale =>
    rw [phase] at consistent
    obtain ⟨past, unique, awaits⟩ := consistent
    refine ⟨Nat.le_trans past later, unique, fun consumerId member => ?_⟩
    exact ⟨(awaits consumerId member).untouched, (awaits consumerId member).touched⟩
  | sleeping | returned | erasedEnd => trivial

theorem consistent_step {m t : Monitored σ} {event : MonitorEvent} (consistent : Consistent m)
    (taken : (monitorSystem σ).step m event = some t) : Consistent t := by
  cases event with
  | register consumerId socket =>
    cases taken
    exact consistent.touch (touches_register m consumerId socket)
  | registerUdp consumerId address port =>
    cases taken
    exact consistent.touch (touches_registerUdp m consumerId address port)
  | activity consumerId =>
    cases taken
    exact consistent.touch (touches_activity m consumerId)
  | unregister consumerId =>
    cases taken
    exact consistent.touch (touches_unregister m consumerId)
  | passes nanoseconds =>
    cases taken
    exact consistent_later consistent (Nat.le_add_right ..) m.running
  | stop =>
    cases taken
    exact consistent_later consistent (Nat.le_refl _) false
  | wake =>
    simp only [monitorSystem] at taken
    split at taken
    next wakeAt phase =>
      split at taken
      next => cases taken
      next =>
        cases taken
        cases running : m.running with
        | true => exact Nat.le_refl m.clock
        | false => trivial
    next => cases taken
  | scan =>
    simp only [monitorSystem] at taken
    split at taken
    next now phase =>
      cases taken
      unfold Consistent at consistent
      rw [phase] at consistent
      obtain ⟨unique, awaits⟩ := awaits_scan m now _
      exact ⟨consistent, unique, awaits⟩
    next => cases taken
  | evict =>
    simp only [monitorSystem] at taken
    split at taken
    next now consumerId rest phase =>
      cases taken
      exact consistent_evict consistent phase
    next => cases taken
  | loopTest =>
    simp only [monitorSystem] at taken
    split at taken
    next =>
      cases taken
      cases running : m.running <;> trivial
    next => cases taken

/-- A touched id has no old entry left. -/
theorem evictsStale_iff {m t : Monitored σ} {event : MonitorEvent} (consistent : Consistent m) :
    EvictsStale m event t ↔ Uninterrupted m event t := by
  refine forall_congr' fun isEvict => forall_congr' fun now => forall_congr' fun consumerId =>
    forall_congr' fun rest => forall_congr' fun phase => ?_
  unfold Consistent at consistent
  rw [phase] at consistent
  obtain ⟨past, -, awaits⟩ := consistent
  obtain ⟨untouched, touched⟩ := awaits consumerId List.mem_cons_self
  constructor
  · intro evicts
    obtain ⟨⟨info, present, old⟩, notActive⟩ := evicts
    refine ⟨notActive, fun gone => ?_⟩
    have recent := touched (.inr gone) info present
    omega
  · intro uninterrupted
    exact ⟨untouched uninterrupted.1 uninterrupted.2, uninterrupted.1⟩

/-- Every eviction of a run removes a stale entry exactly when none of the evicted ids is
touched between its scan and its eviction. -/
theorem evictions_stale_iff (p : Producer σ) (clock : Nat) (events : List MonitorEvent) :
    (monitorSystem σ).Along EvictsStale (.started p clock) events ↔
      (monitorSystem σ).Along Uninterrupted (.started p clock) events :=
  TransitionSystem.along_iff Consistent (fun _ _ _ consistent _ => evictsStale_iff consistent)
    (fun _ _ _ consistent _ taken => consistent_step consistent taken) trivial

theorem step_wake {m : Monitored σ} {wakeAt : Nat} (phase : m.phase = .sleeping wakeAt)
    (slept : wakeAt ≤ m.clock) (running : m.running = true) :
    (monitorSystem σ).step m .wake = some { m with phase := .sampled m.clock } := by
  simp only [monitorSystem, phase, running]
  rw [if_neg (Nat.not_lt.mpr slept), if_pos trivial]

/-- A consumer is stale, and leaves by itself before it is evicted. -/
def leavesByItself : List MonitorEvent :=
  [.register "cons-1" 0, .passes 30000000000, .wake, .scan, .unregister "cons-1", .evict]

/-- The monitor erases the end of the map. -/
theorem missing_entry_erased :
    ¬ ∀ (p : Producer Unit) (clock : Nat) (events : List MonitorEvent),
      (monitorSystem Unit).Along EvictsStale (.started p clock) events := by
  intro claimed
  have along := claimed (.started ⟨"prod-1", "ECHO", "", "", "sequential", 0⟩ 0 ()) 0
    leavesByItself
  obtain ⟨-, along⟩ := along _ rfl
  obtain ⟨-, along⟩ := along _ rfl
  obtain ⟨-, along⟩ := along _ (step_wake rfl (by decide) rfl)
  obtain ⟨-, along⟩ := along _ rfl
  obtain ⟨-, along⟩ := along _ rfl
  obtain ⟨evicts, -⟩ := along _ rfl
  obtain ⟨⟨info, present, -⟩, -⟩ := evicts rfl 30000000000 "cons-1" [] rfl
  cases present

end PnC.Guarantees.StaleEviction
