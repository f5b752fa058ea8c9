import PnC.Source.EchoPlugin
import PnC.Source.ThreadSteps

/-!
# Behind the final checkpoint

shutdown joins the service threads. The threads of handle_client and handle_file_transfer
are detached, and nothing waits for them: each that has not returned when the snapshot is
taken goes on with the members of the producer, before and after its destructor.
-/
namespace PnC.Guarantees.FinalCheckpoint

open PnC.Library PnC.Source

variable {σ : Type} {plugin : TestPlugin σ} {s t : Threads σ}

/-- A step of a client handler or of a thread that answers a file request. -/
def Detached : ThreadEvent → Prop
  | .whole (.accept _) => False
  | .whole event => event.connection ≠ none
  | .request .. | .transfer _ => True
  | .access thread _ | .leave thread | .spin thread => thread ≠ .udp
  | .requestUdp .. | .udpLoopTest | .udpBroken | .acceptTransfer _ | .fileLoopEnds | .signal
  | .shutdown | .join | .save | .destroy => False

/-- A step of these threads changes neither the tracker, the plugin nor next_seq_, and is not
taken behind the destructor. -/
def KeepsCheckpoint (s : Threads σ) (event : ThreadEvent) (t : Threads σ) : Prop :=
  Detached event →
    (t.world.producer.tracker = s.world.producer.tracker ∧
      t.world.producer.plugin = s.world.producer.plugin ∧
      t.world.producer.nextSeq = s.world.producer.nextSeq) ∧
    s.main ≠ .destroyed

structure AllReturned (s : Threads σ) : Prop where
  serving : ∀ n, s.serving (.client n) = none
  clients : ∀ n c, s.world.connections n = some c → c.stage = .returned
  transfers : ∀ k stage, s.transfers k = some stage → stage = .returned

/-! ## A thread that has not returned -/

/-- One of these threads can make a step. -/
def Moves (plugin : TestPlugin σ) (s : Threads σ) : Prop :=
  ∃ event, Detached event ∧ ((threadSystem plugin).step s event).isSome = true

theorem moves_serving {n : Nat} {serving : Serving}
    (standing : s.serving (.client n) = some serving) : Moves plugin s := by
  have accesses (access : Access) {d : Dispatching σ} (possible : access ≠ .send false)
      (taken : (dispatchSystem plugin).step (s.alone serving) access.event = some d) :
      Moves plugin s := by
    refine ⟨.access (.client n) access, client_ne_udp n, ?_⟩
    rw [step_access access standing possible taken]
    rfl
  cases phase : serving.handler.phase with
  | between =>
    obtain ⟨peer, consumerId, remaining, phase⟩ := serving
    cases phase
    cases remaining with
    | zero => exact ⟨.leave (.client n), client_ne_udp n, by simp [threadSystem, standing]⟩
    | succ remaining => exact accesses (.readSeq "") (by decide) (alone_readSeq plugin s rfl "")
  | read msg => exact accesses .nextUnit (by decide) (alone_nextUnit plugin s phase)
  | generated msg =>
    obtain ⟨d, taken, -⟩ := alone_addPending plugin s phase
    exact accesses .addPending (by decide) taken
  | pending msg =>
    obtain ⟨d, taken, -⟩ := alone_markSent plugin s phase
    exact accesses .markSent (by decide) taken
  | marked msg =>
    obtain ⟨d, taken, -⟩ := alone_incrementSeq plugin s phase
    exact accesses .incrementSeq (by decide) taken
  | counted msg =>
    obtain ⟨d, taken⟩ := alone_send plugin s phase
    exact accesses (.send true) (by decide) taken
  | left =>
    obtain ⟨peer, consumerId, remaining, phase⟩ := serving
    cases phase
    exact ⟨.leave (.client n), client_ne_udp n, by simp [threadSystem, standing]⟩
  | stuck =>
    obtain ⟨peer, consumerId, remaining, phase⟩ := serving
    cases phase
    exact ⟨.spin (.client n), client_ne_udp n, by simp [threadSystem, standing]⟩

theorem moves_client {n : Nat} {c : Connection} (free : s.serving (.client n) = none)
    (present : s.world.connections n = some c) (stays : c.stage ≠ .returned)
    (ends : c.stage ≠ .stuck) : Moves plugin s := by
  have whole (event : Event) (own : Detached (.whole event)) (allowed : s.allows event = true)
      (taken : ((producerSystem plugin).step s.world event).isSome = true) : Moves plugin s := by
    refine ⟨.whole event, own, ?_⟩
    simp only [threadSystem, allowed, if_true, Option.isSome_map, taken]
  cases stage : c.stage with
  | handshake | receiving =>
    refine whole (.broken n) (Option.some_ne_none n) (by simp [Threads.allows, free]) ?_
    simp [producerSystem, present, stage]
  | atLoop =>
    refine whole (.loopTest n) (Option.some_ne_none n) (by simp [Threads.allows, free]) ?_
    simp [producerSystem, present, stage]
  | leaving =>
    refine whole (.reclaim n) (Option.some_ne_none n) (by simp [Threads.allows, free]) ?_
    simp [producerSystem, present, stage]
  | reclaimed =>
    refine whole (.unregister n) (Option.some_ne_none n) (by simp [Threads.allows, free]) ?_
    simp [producerSystem, present, stage]
  | returned => exact absurd stage stays
  | stuck => exact absurd stage ends

theorem moves_transfer {k : Nat} {stage : TransferStage} (present : s.transfers k = some stage)
    (stays : stage ≠ .returned) : Moves plugin s := by
  cases stage with
  | receiving | answering => exact ⟨.transfer k, trivial, by simp [threadSystem, present]⟩
  | returned => exact absurd rfl stays

/-- Behind the destructor none of the threads may be able to move. -/
theorem not_moves_destroyed
    (keeps : ∀ continuation, (threadSystem plugin).Along KeepsCheckpoint s continuation)
    (saved : s.main = .saved) : ¬ Moves plugin { s with main := .destroyed } := by
  intro moves
  obtain ⟨event, own, enabled⟩ := moves
  obtain ⟨t, taken⟩ := Option.isSome_iff_exists.mp enabled
  have destroyed : (threadSystem plugin).step s .destroy = some { s with main := .destroyed } := by
    simp only [threadSystem, saved, if_true]
  obtain ⟨-, along⟩ := keeps [.destroy, event] _ destroyed
  obtain ⟨kept, -⟩ := along t taken
  exact (kept own).2 rfl

/-! ## What holds in every run -/

/-- No connection is kept in a next_unit, and behind the joins nothing accepts file requests. -/
structure Sound (s : Threads σ) : Prop where
  ends : ∀ n c, s.world.connections n = some c → c.stage ≠ .stuck
  joined : s.main = .accepting ∨ s.main = .stopping ∨ s.fileLoop = false

theorem sound_step {event : ThreadEvent} (sound : Sound s)
    (taken : (threadSystem plugin).step s event = some t) : Sound t := by
  obtain ⟨ends, joined⟩ := sound
  cases thread_steps taken with
  | @whole event w allowed stepped =>
    have still (n : Nat) (c : Connection) (present : w.connections n = some c) :
        c.stage ≠ .stuck := by
      by_cases own : event.connection = some n
      · exact (stage_own own allowed stepped present).2
      · obtain ⟨before, found, same⟩ := stage_foreign own stepped present
        rw [← same]
        exact ends n before found
    cases event <;> exact ⟨still, joined⟩
  | @request n c j present =>
    refine ⟨fun m now found => ?_, ?_⟩
    · by_cases same : m = n
      · obtain ⟨after, entered, stage⟩ := stage_requestFrame s n c j
        rw [same] at found
        cases entered.symm.trans found
        rcases stage with stays | leaves
        · rw [stays]
          exact ends n c present
        · rw [leaves]
          decide
      · rw [connections_requestFrame_of_ne s same] at found
        exact ends m now found
    · rw [requestFrame_eq]
      exact joined
  | requestUdp address port j =>
    refine ⟨fun n c found => ?_, ?_⟩
    · rw [connections_requestDatagram] at found
      exact ends n c found
    · rw [requestDatagram_eq]
      exact joined
  | @leave thread serving stage standing aside =>
    refine ⟨fun n c found => ?_, ?_⟩
    · rw [connections_leave] at found
      split at found
      next =>
        obtain ⟨before, -, rfl⟩ := Option.map_eq_some_iff.mp found
        exact aside.2
      next => exact ends n c found
    · rw [leave_eq]
      exact joined
  | fileLoopEnds => exact ⟨ends, .inr (.inr rfl)⟩
  | shutdown => exact ⟨ends, .inr (.inl rfl)⟩
  | join stopping ended => exact ⟨ends, .inr (.inr ended)⟩
  | save standing | destroy standing =>
    rw [standing] at joined
    exact ⟨ends, .inr (.inr ((joined.resolve_left (by decide)).resolve_left (by decide)))⟩
  | access | spin | udpLoopTest | udpBroken | acceptTransfer | transfer | signal =>
    exact ⟨ends, joined⟩

theorem sound_run {transport : Transport} {p : Producer σ} {events : List ThreadEvent}
    (replay : (threadSystem plugin).run (.started transport p) events = some s) : Sound s :=
  TransitionSystem.run_preserves Sound (fun _ _ _ => sound_step)
    ⟨fun _ _ present => (by cases present), .inl rfl⟩ replay

/-! ## When all have returned -/

/-- Behind the snapshot, with all threads back. -/
structure Finished (s : Threads σ) : Prop where
  returned : AllReturned s
  main : s.main = .saved ∨ s.main = .destroyed
  fileLoop : s.fileLoop = false

theorem Finished.not_own (finished : Finished s) {event : Event} {w : World σ}
    (allowed : s.allows event = true)
    (taken : (producerSystem plugin).step s.world event = some w) : event.connection = none := by
  have returned {n : Nat} {c : Connection} (present : s.world.connections n = some c) :
      c.stage = .returned := finished.returned.clients n c present
  cases world_step taken with
  | accept n =>
    obtain ⟨-, accepting⟩ := of_decide_eq_true allowed
    rcases finished.main with saved | destroyed
    · cases saved.symm.trans accepting
    · cases destroyed.symm.trans accepting
  | handshake n c j env present stage | inLoop n c j env present stage =>
    cases (returned present).symm.trans stage
  | loopTest n c present stage | reclaim n c present stage | unregister n c present stage =>
    cases (returned present).symm.trans stage
  | broken n c present stage =>
    rw [returned present] at stage
    simp at stage
  | datagram | tick | monitorScan | monitorEvict | stop => rfl

theorem finished_step {event : ThreadEvent} (finished : Finished s)
    (taken : (threadSystem plugin).step s event = some t) : ¬ Detached event ∧ Finished t := by
  obtain ⟨⟨serving, clients, transfers⟩, main, fileLoop⟩ := id finished
  have past : s.main ≠ .accepting ∧ s.main ≠ .stopping ∧ s.main ≠ .joined := by
    rcases main with saved | destroyed
    · rw [saved]
      decide
    · rw [destroyed]
      decide
  -- whoever still has a handler is the UDP thread
  have serves {thread : ThreadId} {now : Serving} (standing : s.serving thread = some now) :
      thread = .udp := by
    cases thread with
    | client n => cases (serving n).symm.trans standing
    | udp => rfl
  cases thread_steps taken with
  | @whole event w allowed stepped =>
    have unowned := finished.not_own allowed stepped
    have still (n : Nat) (c : Connection) (present : w.connections n = some c) :
        c.stage = .returned := by
      have foreign : event.connection ≠ some n := by
        rw [unowned]
        exact (Option.some_ne_none n).symm
      obtain ⟨before, found, same⟩ := stage_foreign foreign stepped present
      exact same.symm.trans (clients n before found)
    have foreign : ¬ Detached (.whole event) := by
      cases event with
      | accept => cases unowned
      | _ => exact fun own => own unowned
    refine ⟨foreign, ?_⟩
    cases event <;> exact ⟨⟨serving, still, transfers⟩, main, fileLoop⟩
  | @request n c j present receiving =>
    cases receiving.symm.trans (clients n c present)
  | requestUdp address port j =>
    refine ⟨id, ⟨fun n => ?_, fun n c present => ?_, ?_⟩, ?_, ?_⟩
    · rw [client_requestDatagram]
      exact serving n
    · rw [connections_requestDatagram] at present
      exact clients n c present
    · rw [requestDatagram_eq]
      exact transfers
    · rw [requestDatagram_eq]
      exact main
    · rw [requestDatagram_eq]
      exact fileLoop
  | @leave thread now stage standing =>
    cases serves standing
    refine ⟨fun own => own rfl, ⟨fun n => ?_, fun n c present => ?_, transfers⟩, main, fileLoop⟩
    · rw [serving_leave, Function.update_of_ne (client_ne_udp n)]
      exact serving n
    · rw [connections_leave, if_neg (client_ne_udp n).symm] at present
      exact clients n c present
  | access standing =>
    cases serves standing
    exact ⟨fun own => own rfl, ⟨⟨serving, clients, transfers⟩, main, fileLoop⟩⟩
  | spin standing =>
    cases serves standing
    exact ⟨fun own => own rfl, finished⟩
  | transfer next present stays => exact absurd (transfers _ _ present) stays
  | acceptTransfer k accepts => cases fileLoop.symm.trans accepts
  | shutdown accepting => exact absurd accepting past.1
  | join stopping => exact absurd stopping past.2.1
  | save joined => exact absurd joined past.2.2
  | destroy => exact ⟨id, ⟨serving, clients, transfers⟩, .inr rfl, fileLoop⟩
  | fileLoopEnds => exact ⟨id, ⟨serving, clients, transfers⟩, main, rfl⟩
  | udpLoopTest | udpBroken | signal =>
    exact ⟨id, ⟨serving, clients, transfers⟩, main, fileLoop⟩

/-- Nothing touches the checkpointed state behind the snapshot, and nothing runs behind the
destructor, exactly when all client handlers and all threads that answer file requests have
returned when the snapshot is taken. -/
theorem keeps_checkpoint_iff (plugin : TestPlugin σ) (transport : Transport) (p : Producer σ)
    (before : List ThreadEvent) (s : Threads σ)
    (replay : (threadSystem plugin).run (.started transport p) before = some s)
    (saved : s.main = .saved) :
    (∀ continuation, (threadSystem plugin).Along KeepsCheckpoint s continuation) ↔
      AllReturned s := by
  obtain ⟨ends, joined⟩ := sound_run replay
  constructor
  · intro keeps
    have idle := not_moves_destroyed keeps saved
    have serving (n : Nat) : s.serving (.client n) = none := by
      cases standing : s.serving (.client n) with
      | none => rfl
      | some serving =>
        exact absurd (moves_serving (s := { s with main := .destroyed }) standing) idle
    refine ⟨serving, fun n c present => ?_, fun k stage present => ?_⟩
    · by_contra stays
      exact idle (moves_client (s := { s with main := .destroyed }) (serving n) present stays
        (ends n c present))
    · by_contra stays
      exact idle (moves_transfer (s := { s with main := .destroyed }) present stays)
  · intro returned continuation
    rw [saved] at joined
    exact TransitionSystem.along_of_preserved Finished
      (fun _ _ _ finished taken => (finished_step finished taken).2)
      (fun _ _ _ finished taken own => absurd own (finished_step finished taken).1)
      ⟨returned, .inl saved, (joined.resolve_left (by decide)).resolve_left (by decide)⟩
      continuation

/-! ## Two runs -/

/-- shutdown up to the snapshot. -/
def shutsDown : List ThreadEvent := [.shutdown, .fileLoopEnds, .join, .save]

/-- A consumer connects and waits. -/
def waits : List ThreadEvent :=
  [.whole (.accept 0),
    .whole (.frame 0 (VersionMessage.mk pcVersion "cons-1").toJson .quiet),
    .whole (.loopTest 0)]

/-- It is sent a unit, asks for a file and disconnects; both of its threads return. -/
def returns : List ThreadEvent :=
  [.request 0 (WorkRequestMessage.mk "cons-1" 1 "").toJson,
    .access (.client 0) (.readSeq ""), .access (.client 0) .nextUnit,
    .access (.client 0) .addPending, .access (.client 0) .markSent,
    .access (.client 0) .incrementSeq, .access (.client 0) (.send true), .leave (.client 0),
    .whole (.loopTest 0), .acceptTransfer 0, .transfer 0, .transfer 0,
    .whole (.broken 0), .whole (.reclaim 0), .whole (.unregister 0)]

theorem keeps_checkpoint_one_client :
    ∃ s, (threadSystem createEchoPlugin).run (.started .tcp echoStart)
        (waits ++ returns ++ shutsDown) = some s ∧
      s.world.producer.nextSeq = 1 ∧ s.transfers 0 = some .returned ∧
      ∀ continuation, (threadSystem createEchoPlugin).Along KeepsCheckpoint s continuation := by
  refine ⟨_, rfl, rfl, rfl, (keeps_checkpoint_iff createEchoPlugin .tcp echoStart
    (waits ++ returns ++ shutsDown) _ rfl rfl).mpr ⟨?_, ?_, ?_⟩⟩
  · rintro (_ | n)
    · rfl
    · rfl
  · rintro (_ | n) c present
    · cases present
      rfl
    · cases present
  · rintro (_ | k) stage present
    · cases present
      rfl
    · cases present

/-- Its request comes behind the snapshot. -/
def asksLate : List ThreadEvent :=
  [.request 0 (WorkRequestMessage.mk "cons-1" 1 "").toJson,
    .access (.client 0) (.readSeq ""), .access (.client 0) .nextUnit]

/-- A unit is generated behind the final checkpoint. -/
theorem handler_outlives_checkpoint :
    ¬ ∀ (transport : Transport) (p : Producer EchoState) (before : List ThreadEvent)
      (s : Threads EchoState),
      (threadSystem createEchoPlugin).run (.started transport p) before = some s →
        s.main = .saved → ∀ continuation,
          (threadSystem createEchoPlugin).Along KeepsCheckpoint s continuation := by
  intro claimed
  have along := claimed .tcp echoStart (waits ++ shutsDown) _ rfl rfl asksLate
  obtain ⟨-, along⟩ := along _ rfl
  obtain ⟨-, along⟩ := along _ rfl
  obtain ⟨keeps, -⟩ := along _ rfl
  have stays := congrArg EchoState.seq (keeps nofun).1.2.1
  exact absurd stays (by decide)

end PnC.Guarantees.FinalCheckpoint
