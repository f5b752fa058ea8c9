import PnC.Source.ThreadSteps

/-!
# Threads that dispatch nothing more

A handler comes to a call of next_unit from inside its dispatch loop, or from behind its
loop condition with the request it waits for. With running_ cleared no handler gets there
any more, but for the UDP thread while it goes round, so that a state from which nothing is
given stays one.
-/
namespace PnC.Guarantees.HaltDispatch

open PnC.Library PnC.Source

variable {σ : Type}

/-- The step neither generates a unit nor begins to send one. -/
def Quiet (plugin : TestPlugin σ) (s : Threads σ) (event : ThreadEvent) (_ : Threads σ) : Prop :=
  match event with
  | .access _ .nextUnit => ∀ state job, plugin.nextUnit s.world.producer.plugin ≠ .unit state job
  | .access _ (.send _) => False
  | _ => True

/-- The thread comes to a call of next_unit before it comes to its loop condition again. -/
def CanCall (s : Threads σ) (thread : ThreadId) : Prop :=
  match s.serving thread with
  | some serving => serving.handler.canCall = true
  | none =>
    match thread with
    | .client n => s.isReceiving n = true
    | .udp => s.udp = .receiving

/-- Whether udp_loop goes on. -/
def LoopsOn (s : Threads σ) : Prop := s.udpRunning = true ∧ s.stopRequested = false

/-- No handler has a unit that it has not begun to send, and the plugin gives none at as
many calls of next_unit as there are handlers in front of one; at none of its calls, if
udp_loop goes on. -/
structure Settled (plugin : TestPlugin σ) (s : Threads σ) : Prop where
  nothingUnsent : ∀ thread serving, s.serving thread = some serving →
    serving.handler.phase.unsent = false
  handlers : ∀ callers : List ThreadId, callers.Nodup → (∀ thread ∈ callers, CanCall s thread) →
    ∀ i < callers.length, ∀ job, ¬ plugin.Gives s.world.producer.plugin i job
  loop : LoopsOn s → ∀ i job, ¬ plugin.Gives s.world.producer.plugin i job

/-! ## A settled state stays settled -/

section Settled
variable {plugin : TestPlugin σ} {s t : Threads σ}

/-- A step after which no more can be called or sent than before. -/
structure Calms (s t : Threads σ) : Prop where
  plugin : t.world.producer.plugin = s.world.producer.plugin
  unsent : ∀ thread serving, t.serving thread = some serving →
    serving.handler.phase.unsent = true →
      ∃ before, s.serving thread = some before ∧ before.handler.phase.unsent = true
  calls : ∀ thread, CanCall t thread → CanCall s thread ∨ LoopsOn s
  loop : LoopsOn t → LoopsOn s

theorem Settled.calm (settled : Settled plugin s) (calms : Calms s t) : Settled plugin t := by
  refine ⟨fun thread serving standing => ?_, fun callers distinct all i within job => ?_,
    fun loops => ?_⟩
  · by_contra pending
    obtain ⟨before, stood, unsent⟩ :=
      calms.unsent thread serving standing (Bool.not_eq_false _ ▸ pending)
    rw [settled.nothingUnsent thread before stood] at unsent
    cases unsent
  · rw [calms.plugin]
    by_cases loops : LoopsOn s
    · exact settled.loop loops i job
    · refine settled.handlers callers distinct (fun thread member => ?_) i within job
      exact (calms.calls thread (all thread member)).resolve_right loops
  · rw [calms.plugin]
    exact settled.loop (calms.loop loops)

/-- The threads are where they were. -/
theorem calms_of_same (plugin : t.world.producer.plugin = s.world.producer.plugin)
    (serving : t.serving = s.serving)
    (stages : ∀ n, t.isReceiving n = true → s.isReceiving n = true)
    (udp : t.udp = .receiving → s.udp = .receiving ∨ LoopsOn s)
    (loop : LoopsOn t → LoopsOn s) : Calms s t := by
  refine ⟨plugin, fun thread now standing unsent => ⟨now, serving ▸ standing, unsent⟩,
    fun thread can => ?_, loop⟩
  unfold CanCall at can ⊢
  rw [serving] at can
  split at can
  next => exact .inl can
  next =>
    cases thread with
    | client n => exact .inl (stages n can)
    | udp => exact udp can

theorem isReceiving_iff {n : Nat} :
    s.isReceiving n = true ↔ ∃ c, s.world.connections n = some c ∧ c.stage = .receiving := by
  unfold Threads.isReceiving
  cases s.world.connections n with
  | none => simp
  | some c => simp

theorem calms_whole {event : Event} {w : World σ} (halted : s.world.producer.running = false)
    (allowed : s.allows event = true)
    (taken : (producerSystem plugin).step s.world event = some w) :
    Calms s (s.afterWhole w event) := by
  have stages (n : Nat) (receiving : (s.afterWhole w event).isReceiving n = true) :
      s.isReceiving n = true := by
    obtain ⟨after, present, stage⟩ := isReceiving_iff.mp receiving
    have entered : w.connections n = some after := by
      cases event <;> exact present
    by_cases own : event.connection = some n
    · have running := (stage_own own allowed taken entered).1 stage
      rw [halted] at running
      cases running
    · obtain ⟨c, before, same⟩ := stage_foreign own taken entered
      exact isReceiving_iff.mpr ⟨c, before, same.trans stage⟩
  obtain ⟨kept, -⟩ := producer_whole allowed taken
  cases event with
  | datagram => exact calms_of_same kept rfl stages nofun id
  | _ => exact calms_of_same kept rfl stages .inl id

theorem isReceiving_congr {n : Nat}
    (same : t.world.connections n = s.world.connections n) :
    t.isReceiving n = s.isReceiving n := by
  unfold Threads.isReceiving
  rw [same]

/-- Whether a thread comes to a call depends on its own place. -/
theorem canCall_congr {other : ThreadId} (serving : t.serving other = s.serving other)
    (receiving : ∀ n, other = .client n → t.isReceiving n = s.isReceiving n)
    (udp : other = .udp → t.udp = s.udp) : CanCall t other ↔ CanCall s other := by
  unfold CanCall
  rw [serving]
  split
  next => exact Iff.rfl
  next =>
    cases other with
    | client n =>
      dsimp only
      rw [receiving n rfl]
    | udp =>
      dsimp only
      rw [udp rfl]

theorem canCall_afterAccess (s : Threads σ) {thread other : ThreadId} (different : other ≠ thread)
    (peer : Endpoint) (d : Dispatching σ) :
    CanCall (s.afterAccess thread peer d) other ↔ CanCall s other :=
  canCall_congr (serving_afterAccess_of_ne s different peer d) (fun _ _ => rfl) (fun _ => rfl)

/-- One thread moves. -/
theorem calms_at (thread : ThreadId)
    (plugin : t.world.producer.plugin = s.world.producer.plugin)
    (elsewhere : ∀ other, other ≠ thread → t.serving other = s.serving other)
    (stages : ∀ n, ThreadId.client n ≠ thread → t.isReceiving n = s.isReceiving n)
    (udp : ThreadId.udp ≠ thread → t.udp = s.udp)
    (sent : ∀ serving, t.serving thread = some serving → serving.handler.phase.unsent = false)
    (calls : CanCall t thread → CanCall s thread) (loop : LoopsOn t → LoopsOn s) :
    Calms s t := by
  refine ⟨plugin, fun other now standing unsent => ?_, fun other can => .inl ?_, loop⟩
  · by_cases same : other = thread
    · rw [sent now (same ▸ standing)] at unsent
      cases unsent
    · exact ⟨now, elsewhere other same ▸ standing, unsent⟩
  · by_cases same : other = thread
    · rw [same] at can ⊢
      exact calls can
    · refine (canCall_congr (elsewhere other same) (fun n own => ?_) (fun own => ?_)).mp can
      · exact stages n (own ▸ same)
      · exact udp (own ▸ same)

theorem loopsOn_congr (running : t.udpRunning = s.udpRunning)
    (requested : t.stopRequested = s.stopRequested) (loops : LoopsOn t) : LoopsOn s :=
  ⟨running.symm.trans loops.1, requested.symm.trans loops.2⟩

/-- A handler that begins to serve was in front of a call before. -/
theorem calms_requestFrame {n : Nat} {c : Connection} {j : Json}
    (present : s.world.connections n = some c) (receiving : c.stage = .receiving)
    (free : s.serving (.client n) = none) : Calms s (s.requestFrame n c j) := by
  have could : CanCall s (.client n) := by
    unfold CanCall
    rw [free]
    exact isReceiving_iff.mpr ⟨c, present, receiving⟩
  have whole := requestFrame_eq s n c j
  have running := congrArg Threads.udpRunning whole
  have requested := congrArg Threads.stopRequested whole
  have stages (m : Nat) (different : ThreadId.client m ≠ .client n) :
      (s.requestFrame n c j).isReceiving m = s.isReceiving m :=
    isReceiving_congr (connections_requestFrame_of_ne s
      (fun same => different (congrArg ThreadId.client same)) c j)
  have loop (loops : LoopsOn (s.requestFrame n c j)) : LoopsOn s :=
    loopsOn_congr running requested loops
  have serves :
      (∀ other, other ≠ .client n → (s.requestFrame n c j).serving other = s.serving other) ∧
        ∀ now, (s.requestFrame n c j).serving (.client n) = some now →
          now.handler.phase.unsent = false := by
    cases parsed : WorkRequestMessage.fromJson j with
    | error what =>
      unfold Threads.requestFrame
      rw [parsed]
      refine ⟨fun _ _ => rfl, fun now standing => ?_⟩
      cases free.symm.trans standing
    | ok req =>
      rw [serving_requestFrame s n c parsed]
      refine ⟨fun other different => Function.update_of_ne different .., fun now standing => ?_⟩
      cases (Function.update_self ..).symm.trans standing
      rfl
  have udp := congrArg Threads.udp whole
  exact calms_at (.client n) (producer_requestFrame s n c j).1 serves.1 stages
    (fun _ => udp) serves.2 (fun _ => could) loop

theorem calms_requestDatagram {address : String} {port : Nat} {j : Json}
    (receiving : s.udp = .receiving) (free : s.serving .udp = none) :
    Calms s (s.requestDatagram address port j) := by
  have could : CanCall s .udp := by
    unfold CanCall
    rw [free]
    exact receiving
  have whole := requestDatagram_eq s address port j
  have running := congrArg Threads.udpRunning whole
  have requested := congrArg Threads.stopRequested whole
  have stages (m : Nat) (_ : ThreadId.client m ≠ .udp) :
      (s.requestDatagram address port j).isReceiving m = s.isReceiving m :=
    isReceiving_congr (congrFun (connections_requestDatagram s address port j) m)
  have loop (loops : LoopsOn (s.requestDatagram address port j)) : LoopsOn s :=
    loopsOn_congr running requested loops
  have serves :
      (∀ other, other ≠ .udp → (s.requestDatagram address port j).serving other =
          s.serving other) ∧
        ∀ now, (s.requestDatagram address port j).serving .udp = some now →
          now.handler.phase.unsent = false := by
    cases parsed : WorkRequestMessage.fromJson j with
    | error what =>
      unfold Threads.requestDatagram
      rw [parsed]
      refine ⟨fun _ _ => rfl, fun now standing => ?_⟩
      cases free.symm.trans standing
    | ok req =>
      rw [serving_requestDatagram s address port parsed]
      refine ⟨fun other different => Function.update_of_ne different .., fun now standing => ?_⟩
      cases (Function.update_self ..).symm.trans standing
      rfl
  exact calms_at .udp (producer_requestDatagram s address port j).1 serves.1 stages
    (fun same => absurd rfl same) serves.2 (fun _ => could) loop

/-- Behind its dispatch loop a thread is in front of its loop condition, or leaves. -/
theorem calms_leave (thread : ThreadId) {stage : Stage} (aside : stage ≠ .receiving) :
    Calms s (s.leave thread stage) := by
  have whole := leave_eq s thread stage
  have running := congrArg Threads.udpRunning whole
  have requested := congrArg Threads.stopRequested whole
  refine calms_at thread (congrArg Producer.plugin (producer_leave s thread stage))
    (fun other different => ?_) (fun n different => ?_) (fun different => ?_)
    (fun now standing => ?_) (fun can => ?_) (loopsOn_congr running requested)
  · rw [serving_leave, Function.update_of_ne different]
  · apply isReceiving_congr
    rw [connections_leave, if_neg different.symm]
  · rw [udp_leave, if_neg different.symm]
  · rw [serving_leave, Function.update_self] at standing
    cases standing
  · unfold CanCall at can
    rw [serving_leave, Function.update_self] at can
    cases thread with
    | udp =>
      dsimp only at can
      rw [udp_leave, if_pos rfl] at can
      cases can
    | client n =>
      obtain ⟨after, present, receiving⟩ := isReceiving_iff.mp can
      rw [connections_leave, if_pos rfl] at present
      obtain ⟨before, -, rfl⟩ := Option.map_eq_some_iff.mp present
      exact absurd receiving aside

theorem gives_after (plugin : TestPlugin σ) (state : σ) (i : Nat) (job : Json) :
    plugin.Gives (plugin.after state) i job ↔ plugin.Gives state (i + 1) job := Iff.rfl

theorem canCall_of_serving {thread : ThreadId} {serving : Serving}
    (standing : s.serving thread = some serving) :
    CanCall s thread ↔ serving.handler.canCall = true := by
  unfold CanCall
  rw [standing]

/-- In a settled state next_unit gives nothing to a handler that calls it. -/
theorem Settled.refuses (settled : Settled plugin s) {thread : ThreadId}
    (could : CanCall s thread) (state : σ) (job : Json) :
    plugin.nextUnit s.world.producer.plugin ≠ .unit state job := by
  intro call
  refine settled.handlers [thread] (List.nodup_singleton thread) (fun other member => ?_) 0
    (Nat.zero_lt_one) job ⟨state, call⟩
  rw [List.mem_singleton.mp member]
  exact could

/-- The call uses up the handler that has made it. -/
theorem settled_nextUnit (settled : Settled plugin s) {thread : ThreadId} {serving : Serving}
    {msg : WorkUnitMessage} (standing : s.serving thread = some serving)
    (could : CanCall s thread) :
    Settled plugin (s.afterAccess thread serving.peer
      ((s.alone serving).afterNextUnit 0 msg (plugin.nextUnit s.world.producer.plugin))) := by
  obtain ⟨handler, outcome, notUnsent, spent, -⟩ :=
    afterNextUnit_refused serving msg (settled.refuses could)
  rw [outcome]
  generalize stopped : Threads.afterAccess s thread serving.peer _ = t
  have now : t.serving thread = some ⟨serving.peer, handler⟩ := by
    rw [← stopped, serving_afterAccess]
    rfl
  have elsewhere (other : ThreadId) (different : other ≠ thread) :
      t.serving other = s.serving other := by
    rw [← stopped, serving_afterAccess_of_ne s different]
  have state : t.world.producer.plugin = plugin.after s.world.producer.plugin := by
    rw [← stopped]
    rfl
  refine ⟨fun other standing => ?_, fun callers distinct all i within job => ?_,
    fun loops i job => ?_⟩
  · by_cases same : other = thread
    · rw [same, now]
      intro here
      cases here
      exact notUnsent
    · rw [elsewhere other same]
      exact settled.nothingUnsent other standing
  · rw [state, gives_after]
    have absent : thread ∉ callers := by
      intro member
      have can := (canCall_of_serving now).mp (all thread member)
      rw [spent] at can
      cases can
    refine settled.handlers (thread :: callers) (List.nodup_cons.mpr ⟨absent, distinct⟩)
      (fun other member => ?_) (i + 1) (Nat.succ_lt_succ within) job
    rcases List.mem_cons.mp member with rfl | later
    · exact could
    · have can := all other later
      have different : other ≠ thread := fun same => absent (same ▸ later)
      rw [← stopped] at can
      exact (canCall_afterAccess s different ..).mp can
  · rw [state, gives_after]
    rw [← stopped] at loops
    exact settled.loop loops (i + 1) job

/-- A settled state stays settled in every access, which generates and sends nothing. -/
theorem settled_access (settled : Settled plugin s) (halted : s.world.producer.running = false)
    {thread : ThreadId} {serving : Serving} {access : Access} {d : Dispatching σ}
    (standing : s.serving thread = some serving) (step : AccessStep plugin s serving access d) :
    Quiet plugin s (.access thread access) (s.afterAccess thread serving.peer d) ∧
      Settled plugin (s.afterAccess thread serving.peer d) ∧ d.producer.running = false := by
  cases step with
  | readSeq timestamp more =>
    refine ⟨trivial, settled.calm (calms_at thread rfl
      (fun other different => serving_afterAccess_of_ne s different ..) (fun _ _ => rfl)
      (fun _ => rfl) (fun now here => ?_)
      (fun _ => (canCall_of_serving standing).mpr more) id), halted⟩
    rw [serving_afterAccess] at here
    cases here
    rfl
  | nextUnit msg ready =>
    have could : CanCall s thread := by
      rw [canCall_of_serving standing, Handler.canCall, ready]
    refine ⟨settled.refuses could, settled_nextUnit settled standing could, ?_⟩
    obtain ⟨handler, outcome, -⟩ :=
      afterNextUnit_refused serving msg (settled.refuses could)
    rw [outcome]
    exact halted
  | carriesOn unsent =>
    rw [settled.nothingUnsent thread serving standing] at unsent
    cases unsent

theorem settled_step {event : ThreadEvent} (halted : s.world.producer.running = false)
    (settled : Settled plugin s) (taken : (threadSystem plugin).step s event = some t) :
    Quiet plugin s event t ∧ t.world.producer.running = false ∧ Settled plugin t := by
  have calm (calms : Calms s t) (still : t.world.producer.running = false) :
      t.world.producer.running = false ∧ Settled plugin t := ⟨still, settled.calm calms⟩
  cases thread_steps taken with
  | @whole event w allowed stepped =>
    refine ⟨trivial, calm (calms_whole halted allowed stepped) ?_⟩
    have still := (producer_whole allowed stepped).2 halted
    cases event <;> exact still
  | @request n c j present receiving free =>
    exact ⟨trivial, calm (calms_requestFrame present receiving free)
      ((producer_requestFrame s n c j).2.trans halted)⟩
  | requestUdp address port j receiving free =>
    exact ⟨trivial, calm (calms_requestDatagram receiving free)
      ((producer_requestDatagram s address port j).2.trans halted)⟩
  | access standing step =>
    obtain ⟨quiet, still, halted⟩ := settled_access settled halted standing step
    exact ⟨quiet, halted, still⟩
  | @leave thread serving stage standing aside =>
    exact ⟨trivial, calm (calms_leave thread aside.1)
      ((congrArg Producer.running (producer_leave s thread stage)).trans halted)⟩
  | spin => exact ⟨trivial, halted, settled⟩
  | udpLoopTest stage goesOn =>
    exact ⟨trivial, calm (calms_of_same rfl rfl (fun _ there => there)
      (fun receiving => .inr (goesOn receiving)) id) halted⟩
  | udpBroken =>
    exact ⟨trivial, calm (calms_of_same rfl rfl (fun _ there => there)
      (fun receiving => by cases receiving) id) halted⟩
  | acceptTransfer | transfer | fileLoopEnds | join | save | destroy =>
    exact ⟨trivial, calm (calms_of_same rfl rfl (fun _ there => there) .inl id) halted⟩
  | signal =>
    exact ⟨trivial, calm (calms_of_same rfl rfl (fun _ there => there) .inl
      (fun loops => by cases loops.2)) halted⟩
  | shutdown =>
    exact ⟨trivial, calm (calms_of_same rfl rfl (fun _ there => there) .inl
      (fun loops => by cases loops.1)) rfl⟩

end Settled

end PnC.Guarantees.HaltDispatch
