import PnC.Source.ConsumerSteps

/-!
# Units that are processed once

The duplicate check knows the ids that mark_completed was called for. A copy of a unit
that arrives while another is queued, in the handler, or through the handler but not yet
marked, passes the check and is processed as well.
-/
namespace PnC.Guarantees.AtMostOnce

open PnC.Library PnC.Source

variable {config : ConsumerConfig}

/-- How often the handler has returned success for a unit of the id. -/
def successes (s : PoolShared Captured) (id : String) : Nat :=
  s.processed.countP fun p => p.1.workUnitId = id ∧ p.2.status = "success"

def ofId (id : String) (work : WorkUnitMessage) : Nat := if work.workUnitId = id then 1 else 0

/-- The worker has popped a unit of the id, and the handler has not returned. -/
def unfinished (id : String) : WorkerPhase Captured → Nat
  | .taken work | .active work | .busy work | .registered work | .handling work => ofId id work
  | _ => 0

/-- The handler has returned success, and mark_completed has not been called. -/
def unmarked (id : String) : WorkerPhase Captured → Nat
  | .handled work result | .erased work result | .inactive work result =>
    if result.status = "success" then ofId id work else 0
  | .reporting work result rest =>
    if result.status = "success" ∧ rest.length = 2 then ofId id work else 0
  | _ => 0

/-- The copies of a unit between the push and mark_completed. -/
def copies (pool : ThreadPool Captured) (id : String) : Nat :=
  pool.shared.queue.buffer.countP (·.workUnitId = id) + pool.total (unfinished id) +
    pool.total (unmarked id)

/-- If the id has been marked completed before the duplicate check, fewer than 3000 others
have been since. -/
def FewOthersStep (s : Consumer) : ConsumerEvent → Prop
  | .check =>
    ∀ work pool, s.phase = .checking work → s.pool = some pool →
      work.workUnitId ∈ pool.shared.captured.marks →
        (recent (pool.shared.captured.marks.takeWhile (· ≠ work.workUnitId))).length <
          maxCompletedIds
  | _ => True

/-- At the duplicate check no other copy of the unit is on its way. -/
def ApartStep (s : Consumer) : ConsumerEvent → Prop
  | .check =>
    ∀ work pool, s.phase = .checking work → s.pool = some pool → copies pool work.workUnitId = 0
  | _ => True

/-- The handler has returned success at most once for every id, and the duplicate check
answers every unit whose id it has returned success for. -/
def ProcessedOnce (s : Consumer) (event : ConsumerEvent) (t : Consumer) : Prop :=
  (∀ pool, t.pool = some pool → ∀ id, successes pool.shared id ≤ 1) ∧
    (event = .check → ∀ work pool, s.phase = .checking work → s.pool = some pool →
      0 < successes pool.shared work.workUnitId → t.phase = .answering work)

/-! ## What a worker does to a copy -/

/-- What a worker carries through the callbacks: the result of its unit, and the effects
that are left. -/
def Placed : WorkerPhase Captured → Prop
  | .handled work result | .erased work result | .inactive work result =>
    result.workUnitId = work.workUnitId
  | .reporting work result rest =>
    result.workUnitId = work.workUnitId ∧
      rest <:+ [Captured.markSuccess result, Captured.sendResult result]
  | .notifying rest => rest = []
  | _ => True

/-- What a worker that returns from the handler says of its unit. -/
def Echoes : WorkerPhase Captured → Prop
  | .handled work result => result.workUnitId = work.workUnitId
  | _ => True

variable {i : Nat} {s t : PoolShared Captured} {phase next : WorkerPhase Captured}

theorem placed_step (step : WorkerStep config.pool i s phase next t) (placed : Placed phase)
    (echoes : Echoes next) : Placed next := by
  cases step with
  | noHandler | handlerReturns => exact echoes
  | erase | countInactive => exact placed
  | callResult work result callback free present =>
    cases present
    exact ⟨placed, List.suffix_refl _⟩
  | resultEffect work result effect rest =>
    exact ⟨placed.1, (List.suffix_cons effect rest).trans placed.2⟩
  | callIdle callback free present =>
    cases present
    rfl
  | idleEffect effect rest => cases placed
  | _ => trivial

theorem countP_processed (processed : List (WorkUnitMessage × ResultMessage)) (id : String)
    (work : WorkUnitMessage) (result : ResultMessage) :
    (processed ++ [(work, result)]).countP
        (fun p => p.1.workUnitId = id ∧ p.2.status = "success") =
      processed.countP (fun p => p.1.workUnitId = id ∧ p.2.status = "success") +
        if result.status = "success" then ofId id work else 0 := by
  rw [List.countP_append, List.countP_singleton, ofId]
  by_cases success : result.status = "success" <;> simp [success]

/-- A copy goes from the queue through the handler, once. -/
theorem open_step (id : String) (step : WorkerStep config.pool i s phase next t) :
    successes t id + t.queue.buffer.countP (·.workUnitId = id) + unfinished id next ≤
      successes s id + s.queue.buffer.countP (·.workUnitId = id) + unfinished id phase := by
  cases step with
  | pop work queue popped =>
    obtain ⟨items, -⟩ := BoundedQueue.pop_ok popped
    have count : s.queue.buffer.countP (·.workUnitId = id) =
        queue.buffer.countP (·.workUnitId = id) + ofId id work := by
      rw [items, List.countP_cons]
      simp [ofId]
    simp only [successes, unfinished] at count ⊢
    omega
  | noHandler work free missing =>
    simp only [successes, unfinished, countP_processed]
    rw [if_neg (by simp [WorkUnitMessage.failure])]
    omega
  | handlerReturns work outcome =>
    simp only [successes, unfinished, countP_processed]
    split <;> omega
  | _ => exact Nat.le_refl _

/-- The ids that were marked stay marked, and the cache knows the last of them. -/
theorem marks_step (step : WorkerStep config.pool i s phase next t) (placed : Placed phase) :
    (∀ id ∈ s.captured.marks, id ∈ t.captured.marks) ∧
      (s.captured.completed.Holds s.captured.marks →
        t.captured.completed.Holds t.captured.marks) := by
  cases step with
  | resultEffect work result effect rest =>
    obtain ⟨-, left⟩ := placed
    rcases List.suffix_cons_iff.mp left with all | tail
    · obtain ⟨rfl, -⟩ := List.cons.inj all
      dsimp only [Captured.markSuccess]
      split
      next => exact ⟨fun id member => List.mem_cons_of_mem _ member, fun holds => holds.mark _⟩
      next => exact ⟨fun id member => member, fun holds => holds⟩
    · rcases List.suffix_cons_iff.mp tail with last | none
      · obtain ⟨rfl, -⟩ := List.cons.inj last
        exact ⟨fun id member => member, fun holds => holds⟩
      · cases List.suffix_nil.mp none
  | idleEffect effect rest => cases placed
  | _ => exact ⟨fun id member => member, fun holds => holds⟩

/-- A success is with its worker until its id is marked. -/
theorem unmarked_step (id : String) (step : WorkerStep config.pool i s phase next t)
    (placed : Placed phase) :
    id ∈ t.captured.marks ∨
      successes t id + unmarked id phase ≤ successes s id + unmarked id next := by
  cases step with
  | noHandler work free missing =>
    right
    simp only [successes, unmarked, countP_processed]
    omega
  | handlerReturns work outcome =>
    right
    simp only [successes, unmarked, countP_processed]
    omega
  | callResult work result callback free present =>
    right
    cases present
    simp [successes, unmarked]
  | resultEffect work result effect rest =>
    obtain ⟨same, left⟩ := placed
    rcases List.suffix_cons_iff.mp left with all | tail
    · obtain ⟨rfl, rfl⟩ := List.cons.inj all
      by_cases marks : result.status = "success" ∧ work.workUnitId = id
      · left
        simp [Captured.markSuccess, marks.1, same, marks.2]
      · right
        simp only [successes, unmarked, ofId]
        by_cases success : result.status = "success"
        · have apart : ¬ work.workUnitId = id := fun equal => marks ⟨success, equal⟩
          simp [success, apart]
        · simp [success]
    · right
      have short := tail.length_le
      simp only [List.length_cons, List.length_nil] at short
      simp only [successes, unmarked, List.length_cons]
      rw [if_neg (by omega)]
      omega
  | noResultCallback work result free missing => cases missing
  | resultReturns =>
    right
    simp [successes, unmarked]
  | _ => exact .inr (Nat.le_refl _)

/-! ## The invariant of a run -/

/-- Where the successful units and the copies on their way are, the unit that the receiver
is about to push included. -/
structure Once (accepted : Option WorkUnitMessage) (pool : ThreadPool Captured) : Prop where
  holds : pool.shared.captured.completed.Holds pool.shared.captured.marks
  placed : ∀ phase ∈ pool.workers, Placed phase
  single : ∀ id,
    successes pool.shared id + pool.shared.queue.buffer.countP (·.workUnitId = id) +
      pool.total (unfinished id) + accepted.elim 0 (ofId id) ≤ 1
  marked : ∀ id, id ∈ pool.shared.captured.marks ∨
    successes pool.shared id ≤ pool.total (unmarked id)

variable {accepted : Option WorkUnitMessage} {pool after : ThreadPool Captured}

theorem once_start (size : UInt64) (work : WorkUnitMessage) :
    Once (some work) (.start size .new) := by
  refine ⟨CompletedIds.holds_empty, ?_, fun id => ?_, fun id => .inr (Nat.zero_le _)⟩
  · intro phase member
    rw [List.eq_of_mem_replicate member]
    trivial
  · have idle : ThreadPool.total (.start size Captured.new) (unfinished id) = 0 := by
      simp [ThreadPool.total, ThreadPool.start, unfinished]
    rw [idle]
    simp only [successes, ThreadPool.start, BoundedQueue.new, List.countP_nil, Option.elim_some,
      ofId]
    split <;> omega

theorem once_worker {left right : List (WorkerPhase Captured)} (once : Once accepted pool)
    (before : pool.workers = left ++ phase :: right)
    (step : WorkerStep config.pool left.length pool.shared phase next s) (echoes : Echoes next) :
    Once accepted { pool with shared := s, workers := left ++ next :: right } := by
  have placed : Placed phase := once.placed phase (by rw [before]; simp)
  obtain ⟨kept, holds⟩ := marks_step step placed
  refine ⟨holds once.holds, ?_, fun id => ?_, fun id => ?_⟩
  · intro other member
    rcases List.mem_append.mp member with inLeft | inRight
    · exact once.placed other (before ▸ List.mem_append_left _ inLeft)
    · rcases List.mem_cons.mp inRight with rfl | inTail
      · exact placed_step step placed echoes
      · exact once.placed other
          (before ▸ List.mem_append_right _ (List.mem_cons_of_mem _ inTail))
  · have moved := ThreadPool.total_move (unfinished id) before
      { pool with shared := s, workers := left ++ next :: right } rfl
    have flow := open_step id step
    have single := once.single id
    dsimp only at moved ⊢
    omega
  · rcases unmarked_step id step placed with marked | flow
    · exact .inl marked
    · rcases once.marked id with earlier | bound
      · exact .inl (kept id earlier)
      · have moved := ThreadPool.total_move (unmarked id) before
          { pool with shared := s, workers := left ++ next :: right } rfl
        right
        dsimp only at moved ⊢
        omega

theorem once_owner {owner : OwnerPhase} {drawn : List WorkUnitMessage}
    (once : Once accepted pool) (step : OwnerStep pool owner s drawn) :
    Once accepted { pool with shared := s, owner := owner, drawn := drawn } := by
  obtain ⟨holds, placed, single, marked⟩ := once
  cases step with
  | pop pending work queue standing popped =>
    obtain ⟨items, -⟩ := BoundedQueue.tryPop_some popped
    refine ⟨holds, placed, fun id => ?_, marked⟩
    have before := single id
    rw [items, List.countP_cons] at before
    simp only [successes, ThreadPool.total] at before ⊢
    omega
  | _ => exact ⟨holds, placed, single, marked⟩

theorem once_pool {consumer : Consumer} {event : PoolEvent} (once : Once accepted pool)
    (allowed : consumer.allows pool event = true)
    (taken : (poolSystem config.pool).step pool event = some after) : Once accepted after := by
  cases event with
  | submit work => cases allowed
  | requestStop =>
    cases taken
    exact ⟨once.holds, once.placed, once.single, once.marked⟩
  | worker i =>
    obtain ⟨left, phase, right, next, shared, rfl, before, move, rfl⟩ :=
      ThreadPool.moveWorker_some taken
    have step := ThreadPool.worker_steps move
    refine once_worker once before step ?_
    cases step <;> trivial
  | handlerReturns i outcome =>
    obtain ⟨left, phase, right, next, shared, rfl, before, move, rfl⟩ :=
      ThreadPool.moveWorker_some taken
    have step : WorkerStep config.pool left.length pool.shared phase next shared :=
      ThreadPool.handler_steps move
    refine once_worker once before step ?_
    cases phase with
    | handling work =>
      cases move
      have standing : pool.workers[left.length]? = some (.handling work) := by
        rw [before, List.getElem?_append_right (Nat.le_refl _), Nat.sub_self]
        rfl
      cases outcome with
      | threw what => rfl
      | returned result =>
        simp only [Consumer.allows, Consumer.echoes, standing] at allowed
        have same : result.workUnitId = work.workUnitId := of_decide_eq_true allowed
        exact same
    | _ => cases move
  | owner =>
    obtain ⟨owner, shared, drawn, step, rfl⟩ := ThreadPool.owner_steps taken
    exact once_owner once step

theorem once_push {work : WorkUnitMessage} (once : Once (some work) pool)
    (taken : (poolSystem config.pool).step pool (.submit work) = some after) :
    Once none after := by
  obtain ⟨holds, placed, single, marked⟩ := once
  simp only [poolSystem] at taken
  split at taken
  next =>
    obtain ⟨queue, pushed, rfl⟩ := Option.map_eq_some_iff.mp taken
    refine ⟨holds, placed, fun id => ?_, marked⟩
    have before := single id
    simp only [Option.elim_some, Option.elim_none, ofId, successes, ThreadPool.total] at before ⊢
    rcases BoundedQueue.push_buffer pushed with same | stored
    · rw [same]
      omega
    · rw [stored, List.countP_append, List.countP_singleton]
      simp only [decide_eq_true_eq]
      omega
  next => cases taken

theorem once_send (result : ResultMessage) (once : Once accepted pool) :
    Once accepted (Consumer.capture pool (Captured.sendResult result)) :=
  ⟨once.holds, once.placed, once.single, once.marked⟩

/-- A unit that passes the check has not been processed with success. -/
theorem fresh_unprocessed {work : WorkUnitMessage} (once : Once none pool)
    (few : work.workUnitId ∈ pool.shared.captured.marks →
      (recent (pool.shared.captured.marks.takeWhile (· ≠ work.workUnitId))).length <
        maxCompletedIds)
    (apart : copies pool work.workUnitId = 0)
    (missing : pool.shared.captured.completed.isCompleted work.workUnitId = false) :
    successes pool.shared work.workUnitId = 0 := by
  rcases once.marked work.workUnitId with marked | bound
  · rw [once.holds.isCompleted_of_few marked (few marked)] at missing
    cases missing
  · unfold copies at apart
    omega

theorem once_accept (work : WorkUnitMessage) (once : Once none pool)
    (apart : copies pool work.workUnitId = 0)
    (unprocessed : successes pool.shared work.workUnitId = 0) : Once (some work) pool := by
  refine ⟨once.holds, once.placed, fun id => ?_, once.marked⟩
  have single := once.single id
  simp only [Option.elim_some, Option.elim_none, ofId] at single ⊢
  unfold copies at apart
  split
  next same =>
    rw [← same]
    omega
  next => omega

/-- The same for the whole consumer; without a pool nothing has been accepted. -/
def OnceConsumer (s : Consumer) : Prop :=
  match s.pool with
  | none => s.phase.accepted = none
  | some pool => s.receiver.fileReady = true ∧ Once s.phase.accepted pool

theorem once_step {s t : Consumer} {event : ConsumerEvent} (once : OnceConsumer s)
    (few : FewOthersStep s event) (apart : ApartStep s event)
    (step : ConsumerStep config s event t) : OnceConsumer t := by
  unfold OnceConsumer at once ⊢
  cases step with
  | quiet event running r phase kept ready =>
    dsimp only
    rw [kept, ready]
    exact once
  | first bytes fs server r work standing before ready => exact ⟨ready, once_start _ _⟩
  | fresh work pool standing present missing =>
    have few := few work pool standing present
    have apart := apart work pool standing present
    rw [present, standing] at once
    rw [present]
    refine ⟨once.1, ?_⟩
    have unprocessed := fresh_unprocessed once.2 few apart missing
    exact once_accept (s.receiver.pointTo work) once.2 apart unprocessed
  | repeated work pool standing present completed =>
    rw [standing] at once
    exact once
  | answer timestamp work pool note standing present =>
    rw [present, standing] at once
    exact ⟨once.1, once_send _ once.2⟩
  | push work pool after standing present taken =>
    rw [present, standing] at once
    exact ⟨once.1, once_push once.2 taken⟩
  | pool event pool after present allowed taken =>
    rw [present] at once
    exact ⟨once.1, once_pool once.2 allowed taken⟩
  | fail timestamp work rest pool failure failing present =>
    rw [present] at once
    exact ⟨once.1, once_send _ once.2⟩

theorem processedOnce_step {s t : Consumer} {event : ConsumerEvent} (once : OnceConsumer s)
    (few : FewOthersStep s event) (apart : ApartStep s event)
    (step : ConsumerStep config s event t) : ProcessedOnce s event t := by
  have after := once_step once few apart step
  refine ⟨fun pool present id => ?_, fun check work pool standing present processed => ?_⟩
  · unfold OnceConsumer at after
    rw [present] at after
    have single := after.2.single id
    omega
  · subst check
    cases step with
    | quiet event running r phase kept ready notPool notPush notCheck => exact absurd rfl notCheck
    | fresh work' pool' standing' present' missing =>
      cases standing.symm.trans standing'
      cases present.symm.trans present'
      unfold OnceConsumer at once
      rw [present, standing] at once
      have unprocessed := fresh_unprocessed once.2 (few work pool standing present)
        (apart work pool standing present) missing
      omega
    | repeated work' pool' standing' present' completed =>
      cases standing.symm.trans standing'
      rfl

theorem once_initial : OnceConsumer .start := rfl

/-- In a run in which no copy of a unit passes the duplicate check while another is on its
way, the handler returns success once for every id, and later copies are answered. -/
theorem processed_once (config : ConsumerConfig) (events : List ConsumerEvent)
    (few : (consumerSystem config).Along (fun s event _ => FewOthersStep s event) .start events)
    (apart : (consumerSystem config).Along (fun s event _ => ApartStep s event) .start events) :
    (consumerSystem config).Along ProcessedOnce .start events := by
  have guarded := TransitionSystem.along_and few apart
  apply TransitionSystem.along_of_invariant OnceConsumer _ _ once_initial guarded
  · intro s event t once ⟨few, apart⟩ taken
    exact once_step once few apart (Consumer.consumer_steps taken)
  · intro s event t once ⟨few, apart⟩ taken
    exact processedOnce_step once few apart (Consumer.consumer_steps taken)

/-- The unit comes again when its success has been marked. -/
def repeatedRun : List ConsumerEvent :=
  [.loopTest, Consumer.unitFrame, .push] ++ List.replicate 6 (.pool (.worker 0)) ++
    [.pool (.handlerReturns 0 (.returned (WorkUnitMessage.named "u-1").success))] ++
    List.replicate 4 (.pool (.worker 0)) ++ [.loopTest, Consumer.unitFrame, .check, .answer ""]

theorem processed_once_repeated :
    (consumerSystem Consumer.smallConsumer).Along ProcessedOnce .start repeatedRun := by
  have guarded : (consumerSystem Consumer.smallConsumer).Along
      (fun s event _ => FewOthersStep s event ∧ ApartStep s event) .start repeatedRun := by
    refine (Consumer.along_first _).mpr ⟨⟨trivial, trivial⟩, ⟨trivial, trivial⟩, ?_⟩
    iterate 13 refine (TransitionSystem.along_cons rfl).mpr ⟨⟨trivial, trivial⟩, ?_⟩
    refine (TransitionSystem.along_cons (Consumer.step_unitFrame_ready rfl rfl)).mpr
      ⟨⟨trivial, trivial⟩, ?_⟩
    refine (TransitionSystem.along_cons rfl).mpr ⟨⟨?_, ?_⟩, ?_⟩
    · intro work pool standing present _
      cases standing
      cases present
      decide
    · intro work pool standing present
      cases standing
      cases present
      rfl
    exact (TransitionSystem.along_cons rfl).mpr ⟨⟨trivial, trivial⟩, trivial⟩
  apply processed_once
  · exact TransitionSystem.along_imp (fun _ _ _ both => both.1) guarded
  · exact TransitionSystem.along_imp (fun _ _ _ both => both.2) guarded

/-- The unit comes again while the first copy is queued. -/
def duplicatedRun : List ConsumerEvent :=
  [.loopTest, Consumer.unitFrame, .push, .loopTest, Consumer.unitFrame, .check, .push] ++
    List.replicate 6 (.pool (.worker 0)) ++
    [.pool (.handlerReturns 0 (.returned (WorkUnitMessage.named "u-1").success))] ++
    List.replicate 15 (.pool (.worker 0)) ++
    [.pool (.handlerReturns 0 (.returned (WorkUnitMessage.named "u-1").success))]

/-- At its only check no id has been marked. -/
theorem fewOthers_duplicatedRun : (consumerSystem Consumer.smallConsumer).Along
    (fun s event _ => FewOthersStep s event) .start duplicatedRun := by
  refine (Consumer.along_first _).mpr ⟨trivial, trivial, ?_⟩
  iterate 2 refine (TransitionSystem.along_cons rfl).mpr ⟨trivial, ?_⟩
  refine (TransitionSystem.along_cons (Consumer.step_unitFrame_ready rfl rfl)).mpr ⟨trivial, ?_⟩
  refine (TransitionSystem.along_cons rfl).mpr ⟨?_, ?_⟩
  · intro work pool standing present marked
    cases present
    cases marked
  iterate 24 refine (TransitionSystem.along_cons rfl).mpr ⟨trivial, ?_⟩
  trivial

theorem queued_copy_processed_again :
    ¬ ∀ (config : ConsumerConfig) (events : List ConsumerEvent),
      (consumerSystem config).Along (fun s event _ => FewOthersStep s event) .start events →
        (consumerSystem config).Along ProcessedOnce .start events := by
  intro claimed
  obtain ⟨final, pool, replay, present, twice⟩ : ∃ final pool,
      (consumerSystem Consumer.smallConsumer).run .start duplicatedRun = some final ∧
        final.pool = some pool ∧ successes pool.shared "u-1" = 2 :=
    ⟨_, _, (Consumer.run_second _).trans rfl, rfl, rfl⟩
  have along := TransitionSystem.along_imp (fun _ _ _ once => once.1)
    (claimed Consumer.smallConsumer duplicatedRun fewOthers_duplicatedRun)
  have once := TransitionSystem.along_last
    (p := fun t => ∀ pool, t.pool = some pool → ∀ id, successes pool.shared id ≤ 1)
    (List.cons_ne_nil _ _) along replay pool present "u-1"
  omega

end PnC.Guarantees.AtMostOnce
