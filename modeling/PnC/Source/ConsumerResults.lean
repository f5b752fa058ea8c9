import PnC.Source.ConsumerMoves
import PnC.Source.PoolContents

/-!
# The results of a consumer

A consumer that is sent units with pairwise distinct ids: what it has submitted is what has
arrived, in that order; a result it sends was returned by its handler for one of these
units, or is the failure by which shutdown returns one of them. `R` is what is known of the
results of the handler.
-/
namespace PnC.Source

open PnC.Library

def WorkUnitMessage.From (arrived : List WorkUnitMessage) (work : WorkUnitMessage) : Prop :=
  ∃ msg ∈ arrived, work.workUnitId = msg.workUnitId ∧ work.job = msg.job

/-- The pool works on copies of what has arrived: the source file is the local one. -/
def WorkUnitMessage.Copied (localFilePath : String) (arrived : List WorkUnitMessage)
    (work : WorkUnitMessage) : Prop :=
  work.From arrived ∧ work.sourceFile = localFilePath

/-- The handler gives its result the id of the unit. -/
def Echoed (R : WorkUnitMessage → ResultMessage → Prop) (work : WorkUnitMessage)
    (result : ResultMessage) : Prop :=
  result.workUnitId = work.workUnitId ∧ R work result

/-- Which effects of the callbacks are left. -/
def WorkerPhase.Placed : WorkerPhase Captured → Prop
  | .reporting _ result rest =>
    rest <:+ [Captured.markSuccess result, Captured.sendResult result]
  | .notifying rest => rest = []
  | _ => True

/-- The id of the unit whose result the worker is about to send. -/
def WorkerPhase.unsent : WorkerPhase Captured → Multiset String
  | .reporting work _ (_ :: _) => {work.workUnitId}
  | _ => 0

/-- Shutdown has returned a unit of the id. -/
def ReturnedAs (work : WorkUnitMessage) (result : ResultMessage) : Prop :=
  result.workUnitId = work.workUnitId ∧ result.status = "failure" ∧ result.foundPassword = none ∧
    result.fileError = none

/-- What the threads share of the results: which ids are marked, and what has been sent. -/
structure PoolShared.Reports (failed : List WorkUnitMessage) (s : PoolShared Captured) : Prop where
  cache : s.captured.completed.Holds s.captured.marks
  marked : ∀ id ∈ s.captured.marks,
    ∃ pair ∈ s.processed, pair.1.workUnitId = id ∧ pair.2.status = "success"
  origin : ∀ result ∈ s.captured.sent,
    (∃ work, (work, result) ∈ s.processed) ∨ ∃ work ∈ failed, ReturnedAs work result

/-- A result is sent once for each unit that was passed on, and once for each that was
returned. -/
def ThreadPool.Balanced (failed : List WorkUnitMessage) (pool : ThreadPool Captured) : Prop :=
  (↑(pool.shared.captured.sent.map (·.workUnitId)) : Multiset String) +
      pool.total WorkerPhase.unsent =
    ↑(pool.shared.passed.map (·.1.workUnitId)) + ↑(failed.map (·.workUnitId))

structure ThreadPool.Reports (P : WorkUnitMessage → Prop)
    (R : WorkUnitMessage → ResultMessage → Prop) (failed : List WorkUnitMessage) (pool : ThreadPool Captured) : Prop where
  contents : pool.Holds P (Echoed R)
  accounted : pool.Accounted
  recorded : pool.Recorded
  placed : ∀ phase ∈ pool.workers, phase.Placed
  shared : pool.shared.Reports failed
  balanced : pool.Balanced failed

variable {P : WorkUnitMessage → Prop} {R : WorkUnitMessage → ResultMessage → Prop}
  {config : ConsumerConfig} {arrived failed : List WorkUnitMessage}

/-! ## One worker -/

section Worker

variable {i : Nat} {s t : PoolShared Captured} {phase next : WorkerPhase Captured}

theorem placed_worker (step : WorkerStep config.pool i s phase next t) (placed : phase.Placed) :
    next.Placed := by
  cases step with
  | callResult work result callback free present =>
    cases present
    exact List.suffix_refl _
  | resultEffect work result effect rest => exact (List.suffix_cons effect rest).trans placed
  | callIdle callback free present =>
    cases present
    rfl
  | idleEffect effect rest => cases placed
  | _ => trivial

/-- An effect of the result callback marks the id, or sends the result and is the last one. -/
theorem effect_cases {result : ResultMessage} {effect : Captured → Captured}
    {rest : List (Captured → Captured)}
    (left : effect :: rest <:+ [Captured.markSuccess result, Captured.sendResult result]) :
    effect = Captured.markSuccess result ∧ rest = [Captured.sendResult result] ∨
      effect = Captured.sendResult result ∧ rest = [] := by
  rcases List.suffix_cons_iff.mp left with all | tail
  · obtain ⟨first, others⟩ := List.cons.inj all
    exact .inl ⟨first, others⟩
  · rcases List.suffix_cons_iff.mp tail with last | none
    · obtain ⟨only, nothing⟩ := List.cons.inj last
      exact .inr ⟨only, nothing⟩
    · cases List.suffix_nil.mp none

theorem reports_worker (step : WorkerStep config.pool i s phase next t) (placed : phase.Placed)
    (holds : phase.Holds P s)
    (echoed : ∀ pair ∈ s.processed, Echoed R pair.1 pair.2) (reports : s.Reports failed) :
    t.Reports failed := by
  obtain ⟨cache, marked, origin⟩ := reports
  have grown {id : String}
      (known : ∃ pair ∈ s.processed, pair.1.workUnitId = id ∧ pair.2.status = "success") :
      ∃ pair ∈ t.processed, pair.1.workUnitId = id ∧ pair.2.status = "success" := by
    obtain ⟨pair, member, known⟩ := known
    exact ⟨pair, step.processed_mono pair member, known⟩
  have sent {result : ResultMessage}
      (known : (∃ work, (work, result) ∈ s.processed) ∨ ∃ work ∈ failed, ReturnedAs work result) :
      (∃ work, (work, result) ∈ t.processed) ∨ ∃ work ∈ failed, ReturnedAs work result :=
    known.imp_left fun ⟨work, member⟩ => ⟨work, step.processed_mono _ member⟩
  cases step with
  | noHandler | handlerReturns =>
    exact ⟨cache, fun id member => grown (marked id member),
      fun result member => sent (origin result member)⟩
  | resultEffect work result effect rest =>
    have carried : (work, result) ∈ s.processed := holds.outcome _ rfl
    obtain ⟨rfl, -⟩ | ⟨rfl, -⟩ := effect_cases placed
    · unfold Captured.markSuccess
      split
      next success =>
        refine ⟨cache.mark _, ?_, origin⟩
        intro id member
        rcases List.mem_cons.mp member with rfl | before
        · exact ⟨(work, result), carried, (echoed _ carried).1.symm, success⟩
        · exact marked id before
      next => exact ⟨cache, marked, origin⟩
    · refine ⟨cache, marked, ?_⟩
      intro other member
      rcases List.mem_append.mp member with before | new
      · exact origin other before
      · rw [List.mem_singleton.mp new]
        exact .inl ⟨work, carried⟩
  | idleEffect effect rest => cases placed
  | _ => exact ⟨cache, marked, origin⟩

/-- The result of a unit is passed on, and then sent. -/
theorem balanced_worker (step : WorkerStep config.pool i s phase next t) (placed : phase.Placed)
    (holds : phase.Holds P s)
    (echoed : ∀ pair ∈ s.processed, Echoed R pair.1 pair.2) :
    (↑(t.captured.sent.map (·.workUnitId)) : Multiset String) +
        ↑(s.passed.map (·.1.workUnitId)) + next.unsent =
      ↑(s.captured.sent.map (·.workUnitId)) + ↑(t.passed.map (·.1.workUnitId)) +
        phase.unsent := by
  cases step with
  | callResult work result callback free present =>
    cases present
    simp only [WorkerPhase.unsent, List.map_append, List.map_cons, List.map_nil,
      ← Multiset.coe_add, Multiset.coe_singleton, add_zero]
    ac_rfl
  | noResultCallback work result free missing => cases missing
  | resultEffect work result effect rest =>
    have carried : (work, result) ∈ s.processed := holds.outcome _ rfl
    obtain ⟨rfl, rfl⟩ | ⟨rfl, rfl⟩ := effect_cases placed
    · unfold Captured.markSuccess
      dsimp only
      split <;> rfl
    · have same : result.workUnitId = work.workUnitId := (echoed _ carried).1
      simp only [Captured.sendResult, WorkerPhase.unsent, List.map_append, List.map_cons,
        List.map_nil, ← Multiset.coe_add, Multiset.coe_singleton, add_zero, same]
      ac_rfl
  | idleEffect effect rest => cases placed
  | callIdle callback free present =>
    cases present
    rfl
  | _ => rfl

end Worker

/-! ## The pool -/

namespace ThreadPool

variable {pool after : ThreadPool Captured}

theorem reports_start (size : UInt64) : (start size Captured.new).Reports P R [] := by
  refine ⟨holds_start size _, accounted_start size _, recorded_start size _, ?_,
    ⟨CompletedIds.holds_empty, nofun, nofun⟩, ?_⟩
  · intro phase member
    rw [List.eq_of_mem_replicate member]
    trivial
  · simp [Balanced, start, total, Captured.new, WorkerPhase.unsent]

/-- Later arrivals do not matter to what is in the pool. -/
theorem Reports.mono {P' : WorkUnitMessage → Prop} (weaker : ∀ work, P work → P' work)
    (reports : pool.Reports P R failed) : pool.Reports P' R failed :=
  { reports with contents := reports.contents.mono weaker }

theorem reports_moved {left right : List (WorkerPhase Captured)}
    {phase next : WorkerPhase Captured} {shared : PoolShared Captured}
    (reports : pool.Reports P R failed) (before : pool.workers = left ++ phase :: right)
    (step : WorkerStep config.pool left.length pool.shared phase next shared)
    (contents : Holds P (Echoed R)
      { pool with shared := shared, workers := left ++ next :: right }) :
    Reports P R failed { pool with shared := shared, workers := left ++ next :: right } := by
  have member : phase ∈ pool.workers := before ▸ by simp
  have placed := reports.placed phase member
  have holds := reports.contents.workers phase member
  have echoed (pair) (known : pair ∈ pool.shared.processed) : Echoed R pair.1 pair.2 :=
    (reports.contents.shared.processed pair known).2
  have taken : PoolStep config.pool pool _ := .worker left right phase next shared before step
  refine ⟨contents, accounted_step rfl taken reports.accounted,
    recorded_step rfl taken reports.recorded, ?_,
    reports_worker step placed holds echoed reports.shared, ?_⟩
  · intro other present
    rcases List.mem_append.mp present with inLeft | inRight
    · exact reports.placed other (before ▸ List.mem_append_left _ inLeft)
    · rcases List.mem_cons.mp inRight with rfl | inTail
      · exact placed_worker step placed
      · exact reports.placed other
          (before ▸ List.mem_append_right _ (List.mem_cons_of_mem _ inTail))
  · have flow := balanced_worker step placed holds echoed
    have moved := total_move WorkerPhase.unsent before
      { pool with shared := shared, workers := left ++ next :: right } rfl
    have balanced := reports.balanced
    unfold Balanced at balanced ⊢
    dsimp only at moved ⊢
    apply add_right_cancel (b := ↑(pool.shared.passed.map (·.1.workUnitId)) + phase.unsent)
    calc _ = ↑(shared.captured.sent.map (·.workUnitId)) +
          ↑(pool.shared.passed.map (·.1.workUnitId)) +
          (total { pool with shared := shared, workers := left ++ next :: right }
            WorkerPhase.unsent + phase.unsent) := by ac_rfl
      _ = ↑(shared.captured.sent.map (·.workUnitId)) +
          ↑(pool.shared.passed.map (·.1.workUnitId)) + next.unsent +
          pool.total WorkerPhase.unsent := by
        rw [moved]
        ac_rfl
      _ = ↑(pool.shared.captured.sent.map (·.workUnitId)) + pool.total WorkerPhase.unsent +
          ↑(shared.passed.map (·.1.workUnitId)) + phase.unsent := by
        rw [flow]
        ac_rfl
      _ = _ := by
        rw [balanced]
        ac_rfl

/-- A step of the pool, given what is submitted and what the handler returns. -/
theorem reports_step {event : PoolEvent} (reports : pool.Reports P R failed)
    (submits : ∀ work, event = .submit work → P work)
    (returns : ∀ i outcome work, event = .handlerReturns i outcome →
      pool.workers[i]? = some (.handling work) → Echoed R work (outcome.result work))
    (missing : config.hasHandler = false →
      ∀ work : WorkUnitMessage, Echoed R work (work.failure "no handler registered"))
    (taken : (poolSystem config.pool).step pool event = some after) :
    after.Reports P R failed := by
  have contents := holds_step reports.contents submits returns missing taken
  have accounted := accounted_step rfl (pool_steps taken) reports.accounted
  have recorded := recorded_step rfl (pool_steps taken) reports.recorded
  cases event with
  | submit work =>
    simp only [poolSystem] at taken
    split at taken
    next =>
      obtain ⟨queue, pushed, rfl⟩ := Option.map_eq_some_iff.mp taken
      exact ⟨contents, accounted, recorded, reports.placed,
        ⟨reports.shared.cache, reports.shared.marked, reports.shared.origin⟩, reports.balanced⟩
    next => cases taken
  | requestStop =>
    cases taken
    exact ⟨contents, accounted, recorded, reports.placed,
      ⟨reports.shared.cache, reports.shared.marked, reports.shared.origin⟩, reports.balanced⟩
  | worker i =>
    obtain ⟨left, phase, right, next, shared, rfl, before, move, rfl⟩ := moveWorker_some taken
    exact reports_moved reports before (worker_steps move) contents
  | handlerReturns i outcome =>
    obtain ⟨left, phase, right, next, shared, rfl, before, move, rfl⟩ := moveWorker_some taken
    have step : WorkerStep config.pool left.length pool.shared phase next shared :=
      handler_steps move
    exact reports_moved reports before step contents
  | owner =>
    obtain ⟨owner, shared, drawn, step, rfl⟩ := owner_steps taken
    cases step <;>
      exact ⟨contents, accounted, recorded, reports.placed,
        ⟨reports.shared.cache, reports.shared.marked, reports.shared.origin⟩, reports.balanced⟩

/-- Shutdown returns a unit. -/
theorem reports_fail (reports : pool.Reports P R failed) {work : WorkUnitMessage}
    {failure : ResultMessage} (returned : ReturnedAs work failure) :
    Reports P R (failed ++ [work]) (Consumer.capture pool (Captured.sendResult failure)) := by
  obtain ⟨⟨⟨buffer, active, processed, passed⟩, workers, pending⟩, ⟨drains, balance⟩, recorded,
    placed, ⟨cache, marked, origin⟩, balanced⟩ := reports
  refine ⟨⟨⟨buffer, active, processed, passed⟩,
    fun phase member => ⟨(workers phase member).unit, (workers phase member).outcome⟩, pending⟩,
    ⟨drains, balance⟩, recorded, placed, ⟨cache, marked, ?_⟩, ?_⟩
  · intro result member
    rcases List.mem_append.mp member with before | new
    · refine (origin result before).imp_right ?_
      intro ⟨other, among, same⟩
      exact ⟨other, List.mem_append_left _ among, same⟩
    · rw [List.mem_singleton.mp new]
      exact .inr ⟨work, List.mem_append_right _ List.mem_cons_self, returned⟩
  · unfold Balanced at balanced ⊢
    simp only [Consumer.capture, Captured.sendResult, List.map_append, List.map_cons,
      List.map_nil, ← Multiset.coe_add, Multiset.coe_singleton, returned.1]
    rw [← add_assoc, ← balanced]
    unfold total
    dsimp only
    ac_rfl

end ThreadPool

/-! ## The consumer -/

def PoolEvent.submits : PoolEvent → List WorkUnitMessage
  | .submit work => [work]
  | _ => []

/-- The unit that the receiver has in its hands. -/
def ReceiverPhase.unit? : ReceiverPhase → Option WorkUnitMessage
  | .checking work | .answering work | .submitting work => some work
  | _ => none

/-- The ids of what has been submitted to the pool. -/
def Consumer.submittedIds (s : Consumer) : List String :=
  match s.pool with
  | none => []
  | some pool => pool.submitted.map (·.workUnitId)

/-- What the receiver has in its hands, by its id. -/
def ReceiverPhase.handIds (phase : ReceiverPhase) : List String :=
  (phase.unit?.map (·.workUnitId)).toList

/-- The pool, if there is one yet, takes units. -/
def Consumer.Working (s : Consumer) : Prop :=
  ∀ pool, s.pool = some pool → pool.owner = .submitting

structure Consumer.Reports (R : WorkUnitMessage → ResultMessage → Prop)
    (arrived : List WorkUnitMessage) (s : Consumer) : Prop where
  distinct : (arrived.map (·.workUnitId)).Nodup
  ready : s.receiver.fileReady = s.pool.isSome
  hand : ∀ work, s.phase.unit? = some work → s.pool.isSome = true ∧ work.From arrived
  pointed : ∀ work, s.phase = .submitting work → work.sourceFile = s.receiver.localFilePath
  unanswered : ∀ work, s.phase ≠ .answering work
  inOrder : s.submittedIds ++ s.phase.handIds <+: arrived.map (·.workUnitId)
  complete : s.phase ≠ .left → s.submittedIds ++ s.phase.handIds = arrived.map (·.workUnitId)
  pool : ∀ pool, s.pool = some pool →
    pool.Reports (WorkUnitMessage.Copied s.receiver.localFilePath arrived) R s.failed
  unreturned : s.Working → s.failing = [] ∧ s.failed = []
  failing : ∀ work ∈ s.failing, work.From arrived
  returned : ∀ work ∈ s.failed, work.From arrived

namespace Consumer

variable {s t : Consumer}

theorem reports_new : Consumer.start.Reports R [] :=
  ⟨List.nodup_nil, rfl, nofun, nofun, nofun, List.prefix_refl _, fun _ => rfl, nofun,
    fun _ => ⟨rfl, rfl⟩, nofun, nofun⟩

theorem submittedIds_of_pool {pool : ThreadPool Captured} (present : s.pool = some pool) :
    s.submittedIds = pool.submitted.map (·.workUnitId) := by
  rw [submittedIds, present]

/-- A frame with a new unit is checked, starts the pool, or ends the loop. -/
theorem reports_frame {bytes : List UInt8} {fs : FileSystem} {server : FileServer}
    {msg work : WorkUnitMessage} (reports : s.Reports R arrived)
    (valid : ¬ (work.workUnitId = "" ∨ work.job.isEmpty = true))
    (content : readFrame config.receiver bytes = .unit work)
    (copy : work.workUnitId = msg.workUnitId ∧ work.job = msg.job)
    (fresh : ((arrived ++ [msg]).map (·.workUnitId)).Nodup)
    (taken : (consumerSystem config).step s (.frame bytes fs server) = some t) :
    t.Reports R (arrived ++ [msg]) := by
  obtain ⟨distinct, ready, hand, pointed, unanswered, inOrder, complete, pool, unreturned,
    failing, returned⟩ := reports
  have older (other : WorkUnitMessage) (known : other.From arrived) :
      other.From (arrived ++ [msg]) := by
    obtain ⟨source, member, same⟩ := known
    exact ⟨source, List.mem_append_left _ member, same⟩
  have own (local_ : String) :
      WorkUnitMessage.From (arrived ++ [msg]) { work with sourceFile := local_ } :=
    ⟨msg, List.mem_append_right _ List.mem_cons_self, copy⟩
  have failing' (other : WorkUnitMessage) (member : other ∈ s.failing) := older other
    (failing other member)
  have returned' (other : WorkUnitMessage) (member : other ∈ s.failed) := older other
    (returned other member)
  -- what is in the pool is there with the path that the receiver keeps
  have kept {r : Receiver} {reached : Receiver.Pass}
      (passed : s.receiver.pass config.receiver bytes fs server = (r, reached))
      (p : ThreadPool Captured) (present : s.pool = some p) :
      p.Reports (WorkUnitMessage.Copied r.localFilePath (arrived ++ [msg])) R s.failed := by
    have there : s.receiver.fileReady = true := by
      rw [ready, present]
      rfl
    refine (pool p present).mono ?_
    intro other known
    exact ⟨older other known.1, known.2.trans (pass_localFilePath passed there).symm⟩
  cases consumer_moves taken with
  | ignored _ _ _ r standing passed => exact (pass_unit valid content passed).elim
  | threw _ _ _ r what standing passed =>
    have same : r.fileReady = s.receiver.fileReady := pass_unit valid content passed
    refine ⟨fresh, same.trans ready, nofun, nofun, nofun, ?_, fun stays => absurd rfl stays,
      kept passed, unreturned, failing', returned'⟩
    rw [standing] at inOrder
    exact inOrder.trans (by rw [List.map_append]; exact List.prefix_append _ _)
  | first _ _ _ r first standing passed =>
    obtain ⟨rfl, early, now⟩ := pass_unit valid content passed
    have none_ : s.pool = none := by
      rw [← Option.not_isSome_iff_eq_none, ← ready, early]
      exact Bool.false_ne_true
    have before := complete (by rw [standing]; nofun)
    rw [standing, submittedIds, none_] at before
    have whole : [first.workUnitId] = (arrived ++ [msg]).map (·.workUnitId) := by
      rw [List.map_append, ← before, copy.1]
      rfl
    have idle : s.failing = [] ∧ s.failed = [] := unreturned (by
      intro p present
      rw [none_] at present
      cases present)
    refine ⟨fresh, now, ?_, ?_, nofun, ?_, fun _ => whole, ?_, fun _ => idle, failing', returned'⟩
    · intro other same
      cases same
      exact ⟨rfl, own _⟩
    · intro other same
      cases same
      rfl
    · rw [← whole]
      exact List.prefix_refl _
    · intro p present
      cases present
      rw [idle.2]
      exact ThreadPool.reports_start _
  | checks _ _ _ r checked standing passed =>
    obtain ⟨rfl, early, now⟩ := pass_unit valid content passed
    have present : s.pool.isSome = true := ready.symm.trans early
    have before := complete (by rw [standing]; nofun)
    rw [standing] at before
    have whole : s.submittedIds ++ [checked.workUnitId] =
        (arrived ++ [msg]).map (·.workUnitId) := by
      rw [List.map_append, ← before, copy.1]
      simp [ReceiverPhase.handIds, ReceiverPhase.unit?]
    refine ⟨fresh, now.trans present.symm, ?_, nofun, nofun, ?_, fun _ => whole, kept passed,
      unreturned, failing', returned'⟩
    · intro other same
      cases same
      exact ⟨present, own _⟩
    · rw [← whole]
      exact List.prefix_refl _

/-- An id that the cache knows was submitted. -/
theorem submitted_of_completed {pool : ThreadPool Captured}
    (reports : pool.Reports P R failed) {id : String}
    (completed : pool.shared.captured.completed.isCompleted id = true) :
    id ∈ pool.submitted.map (·.workUnitId) := by
  have cache := reports.shared.cache
  have known := (cache.set id).mp completed
  rw [cache.lru] at known
  obtain ⟨pair, member, rfl, -⟩ :=
    reports.shared.marked id (mem_recent.mp (List.mem_of_mem_take known))
  exact List.mem_map_of_mem
    (ThreadPool.submitted_of_processed reports.accounted reports.recorded member)

/-- Only a submit changes what has been submitted. -/
theorem submitted_step {pool after : ThreadPool Captured} {event : PoolEvent}
    (taken : (poolSystem config.pool).step pool event = some after) :
    after.submitted = pool.submitted ++ event.submits := by
  cases event with
  | submit work =>
    simp only [poolSystem] at taken
    split at taken
    next =>
      obtain ⟨queue, -, rfl⟩ := Option.map_eq_some_iff.mp taken
      rfl
    next => cases taken
  | requestStop =>
    cases taken
    exact (List.append_nil _).symm
  | worker i | handlerReturns i outcome =>
    obtain ⟨_, _, _, _, _, _, _, _, rfl⟩ := ThreadPool.moveWorker_some taken
    exact (List.append_nil _).symm
  | owner =>
    obtain ⟨_, _, _, -, rfl⟩ := ThreadPool.owner_steps taken
    exact (List.append_nil _).symm

/-- The pool never takes units again. -/
theorem owner_submitting {pool after : ThreadPool Captured} {event : PoolEvent}
    (taken : (poolSystem config.pool).step pool event = some after)
    (standing : after.owner = .submitting) : pool.owner = .submitting := by
  cases ThreadPool.pool_steps taken with
  | submit work queue before => exact before
  | requestStop | worker => exact standing
  | owner next shared drawn step =>
    cases step <;> cases standing

theorem working_of_pool {pool : ThreadPool Captured} (present : s.pool = some pool)
    (standing : pool.owner = .submitting) : s.Working := by
  intro other there
  cases present.symm.trans there
  exact standing

/-- What the handler returns is echoed when it is what `R` knows of results. -/
theorem echoed_of_allowed {pool : ThreadPool Captured} {i : Nat} {outcome : HandlerOutcome}
    {work : WorkUnitMessage} (allowed : s.allows pool (.handlerReturns i outcome) = true)
    (standing : pool.workers[i]? = some (.handling work)) (meets : R work (outcome.result work)) :
    Echoed R work (outcome.result work) := by
  refine ⟨?_, meets⟩
  cases outcome with
  | threw what => rfl
  | returned result =>
    simp only [allows, echoes, standing] at allowed
    exact of_decide_eq_true allowed

/-- What is left to return behind a step of the pool came out of the pool. -/
theorem from_returnedPending {pool after : ThreadPool Captured} {failing : List WorkUnitMessage}
    (reports : after.Reports P R failed) (copies : ∀ work, P work → work.From arrived)
    (earlier : ∀ work ∈ failing, work.From arrived) :
    ∀ work ∈ returnedPending pool after failing, work.From arrived := by
  have pending := reports.contents.pending
  unfold returnedPending
  split
  next found _ drained =>
    rw [drained] at pending
    exact fun work member => copies work (pending work member)
  next => exact earlier

/-- The receiver has pushed what it had in its hands. -/
theorem reports_push {work : WorkUnitMessage} {p after : ThreadPool Captured}
    (reports : s.Reports R arrived) (standing : s.phase = .submitting work)
    (present : s.pool = some p)
    (missing : config.hasHandler = false →
      ∀ work : WorkUnitMessage, Echoed R work (work.failure "no handler registered"))
    (pushed : (poolSystem config.pool).step p (.submit work) = some after) :
    Consumer.Reports R arrived { s with phase := .atLoop, pool := some after } := by
  obtain ⟨distinct, ready, hand, pointed, unanswered, inOrder, complete, pool, unreturned,
    failing, returned⟩ := reports
  rw [standing] at hand pointed inOrder complete
  have grown := submitted_step pushed
  have same : Consumer.submittedIds { s with phase := .atLoop, pool := some after } ++
      ReceiverPhase.atLoop.handIds =
      s.submittedIds ++ (ReceiverPhase.submitting work).handIds := by
    rw [submittedIds_of_pool present, submittedIds_of_pool rfl, grown, List.map_append]
    exact List.append_nil _
  have whole := complete nofun
  have idle (working : Working { s with phase := .atLoop, pool := some after }) :
      s.failing = [] ∧ s.failed = [] :=
    unreturned (working_of_pool present (owner_submitting pushed (working after rfl)))
  refine ⟨distinct, ready.trans (by rw [present]; rfl), nofun, nofun, nofun, ?_, fun _ => ?_, ?_,
    idle, failing, returned⟩
  · rw [same]
    exact inOrder
  · rw [same]
    exact whole
  · intro q there
    cases there
    refine ThreadPool.reports_step (pool p present) ?_ (fun _ _ _ other => by cases other)
      missing pushed
    intro other equal
    cases equal
    exact ⟨(hand work rfl).2, pointed work rfl⟩

/-- A step of the pool that is no push of the receiver. -/
theorem reports_pool {event : PoolEvent} {p after : ThreadPool Captured}
    (reports : s.Reports R arrived) (present : s.pool = some p)
    (allowed : s.allows p event = true)
    (returns : ∀ i outcome work, event = .handlerReturns i outcome →
      p.workers[i]? = some (.handling work) → R work (outcome.result work))
    (missing : config.hasHandler = false →
      ∀ work : WorkUnitMessage, Echoed R work (work.failure "no handler registered"))
    (step : (poolSystem config.pool).step p event = some after) :
    Consumer.Reports R arrived
      { s with pool := some after, failing := returnedPending p after s.failing } := by
  obtain ⟨distinct, ready, hand, pointed, unanswered, inOrder, complete, pool, unreturned,
    failing, returned⟩ := reports
  have reports := ThreadPool.reports_step (pool p present)
    (by
      intro other equal
      rw [equal] at allowed
      cases allowed)
    (by
      intro i outcome work equal standing
      rw [equal] at allowed
      exact echoed_of_allowed allowed standing (returns i outcome work equal standing))
    missing step
  have kept : after.submitted = p.submitted := by
    rw [submitted_step step]
    cases event with
    | submit work => cases allowed
    | _ => exact List.append_nil _
  have same : ∀ failing, Consumer.submittedIds { s with pool := some after, failing := failing } =
      s.submittedIds := by
    intro failing
    rw [submittedIds_of_pool present, submittedIds_of_pool rfl, kept]
  have idle : ∀ left, Working { s with pool := some after, failing := left } →
      returnedPending p after s.failing = [] ∧ s.failed = [] := by
    intro left working
    have standing := working after rfl
    unfold returnedPending
    split
    next drained =>
      rw [standing] at drained
      cases drained
    next => exact unreturned (working_of_pool present (owner_submitting step standing))
  refine ⟨distinct, ready.trans (by rw [present]; rfl), ?_, pointed, unanswered, ?_, ?_, ?_,
    idle _, from_returnedPending reports (fun _ copy => copy.1) failing, returned⟩
  · intro other equal
    exact ⟨rfl, (hand other equal).2⟩
  · rw [same]
    exact inOrder
  · rw [same]
    exact complete
  · intro q there
    cases there
    exact reports

/-- The loop of shutdown has returned a unit. -/
theorem reports_returned {work : WorkUnitMessage} {rest : List WorkUnitMessage}
    {p : ThreadPool Captured} {failure : ResultMessage} (reports : s.Reports R arrived)
    (left : s.failing = work :: rest) (present : s.pool = some p)
    (failed : ReturnedAs work failure) :
    Consumer.Reports R arrived
      { s with
        pool := some (capture p (Captured.sendResult failure))
        failing := rest
        failed := s.failed ++ [work] } := by
  obtain ⟨distinct, ready, hand, pointed, unanswered, inOrder, complete, pool, unreturned,
    failing, returned⟩ := reports
  rw [left] at failing
  have same : Consumer.submittedIds
      { s with
        pool := some (capture p (Captured.sendResult failure))
        failing := rest
        failed := s.failed ++ [work] } = s.submittedIds := by
    rw [submittedIds_of_pool present]
    rfl
  have idle (working : p.owner = .submitting) : rest = [] ∧ s.failed ++ [work] = [] := by
    have none_ := (unreturned (working_of_pool present working)).1
    rw [left] at none_
    cases none_
  refine ⟨distinct, ready.trans (by rw [present]; rfl), ?_, pointed, unanswered, ?_, ?_, ?_,
    fun working => idle (show (capture p _).owner = .submitting from working _ rfl),
    fun other member => failing other (List.mem_cons_of_mem _ member), ?_⟩
  · intro other equal
    exact ⟨rfl, (hand other equal).2⟩
  · rw [same]
    exact inOrder
  · rw [same]
    exact complete
  · intro q there
    cases there
    exact ThreadPool.reports_fail (pool p present) failed
  · intro other member
    rcases List.mem_append.mp member with before | new
    · exact returned other before
    · rw [List.mem_singleton.mp new]
      exact failing work List.mem_cons_self

/-- Every step but the arrival of a frame. -/
theorem reports_move {event : ConsumerEvent} (reports : s.Reports R arrived)
    (noFrame : ∀ bytes fs server, event ≠ .frame bytes fs server)
    (returns : ∀ pool i outcome work, event = .pool (.handlerReturns i outcome) →
      s.pool = some pool → pool.workers[i]? = some (.handling work) → R work (outcome.result work))
    (missing : config.hasHandler = false →
      ∀ work : WorkUnitMessage, R work (work.failure "no handler registered"))
    (taken : (consumerSystem config).step s event = some t) : t.Reports R arrived := by
  obtain ⟨distinct, ready, hand, pointed, unanswered, inOrder, complete, pool, unreturned,
    failing, returned⟩ := id reports
  have missing' (none_ : config.hasHandler = false) (work : WorkUnitMessage) :
      Echoed R work (work.failure "no handler registered") := ⟨rfl, missing none_ work⟩
  cases consumer_moves taken with
  | loopTest standing =>
    rw [standing] at inOrder complete
    have whole := complete nofun
    by_cases running : s.running = true
    · rw [if_pos running]
      exact ⟨distinct, ready, nofun, nofun, nofun, inOrder, fun _ => whole, pool, unreturned,
        failing, returned⟩
    · rw [if_neg running]
      exact ⟨distinct, ready, nofun, nofun, nofun, inOrder, fun _ => whole, pool, unreturned,
        failing, returned⟩
  | ignored | threw | first | checks => exact absurd rfl (noFrame _ _ _)
  | recvFails standing =>
    rw [standing] at inOrder complete
    exact ⟨distinct, ready, nofun, nofun, nofun, inOrder, fun _ => complete nofun, pool,
      unreturned, failing, returned⟩
  | fresh work p standing present missed =>
    rw [standing] at hand inOrder complete
    obtain ⟨there, source, member, same⟩ := hand work rfl
    refine ⟨distinct, ready, ?_, ?_, nofun, inOrder, fun _ => complete nofun, pool, unreturned,
      failing, returned⟩
    · intro other equal
      cases equal
      exact ⟨there, source, member, same⟩
    · intro other equal
      cases equal
      rfl
  | repeated work p standing present completed =>
    rw [standing] at inOrder
    have known := submitted_of_completed (pool p present) completed
    rw [← submittedIds_of_pool present] at known
    have apart := distinct.sublist inOrder.sublist
    rw [List.nodup_append] at apart
    exact absurd rfl (apart.2.2 _ known _ List.mem_cons_self)
  | answer timestamp work p standing present => exact absurd standing (unanswered work)
  | push work p after standing present pushed =>
    exact reports_push reports standing present missing' pushed
  | pool event p after present allowed step =>
    refine reports_pool reports present allowed ?_ missing' step
    intro i outcome work equal standing
    exact returns p i outcome work (by rw [equal]) present standing
  | stop =>
    exact ⟨distinct, ready, hand, pointed, unanswered, inOrder, complete, pool, unreturned,
      failing, returned⟩
  | fail timestamp work rest p left present =>
    exact reports_returned reports left present ⟨rfl, rfl, rfl, rfl⟩

end Consumer

end PnC.Source
