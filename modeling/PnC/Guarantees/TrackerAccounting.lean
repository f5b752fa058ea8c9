import PnC.Library.Transition
import PnC.Source.WorkTracker

/-!
# Work tracker accounting

`completed_count` is kept incrementally and `pending_count` is recomputed from
the entries. Neither mark_sent nor mark_completed nor mark_failed looks at the
status it overwrites, so the two agree with the entries along a run exactly when
no such call names a unit that is already completed (`accounting_iff`); a second
success result for one unit is enough to separate them.
-/
namespace PnC.Guarantees.TrackerAccounting

open PnC.Library PnC.Source

inductive TrackerOp where
  | addPending (entry : WorkUnitEntry)
  | markSent (workUnitId consumerId : String)
  | markCompleted (workUnitId : String)
  | markFailed (workUnitId : String)
  | getFailedForConsumer (consumerId : String)

/-- Units are added with a fresh id and status pending; the other operations take
any ids and consumers. -/
def trackerSystem : TransitionSystem WorkTracker TrackerOp where
  step t
    | .addPending entry =>
      if (t.find entry.workUnitId).isNone ∧ entry.status = .pending then
        some (t.addPending entry)
      else none
    | .markSent workUnitId consumerId => some (t.markSent workUnitId consumerId)
    | .markCompleted workUnitId => some (t.markCompleted workUnitId)
    | .markFailed workUnitId => some (t.markFailed workUnitId)
    | .getFailedForConsumer consumerId => some (t.getFailedForConsumer consumerId).1

def isCompleted (e : WorkUnitEntry) : Bool := e.status = .completed

/-- The counters say what the entries say. -/
structure Accounts (t : WorkTracker) : Prop where
  completed : t.completedCount = (t.entries.items.countP isCompleted : Int)
  total : t.pendingCount + t.completedCount = (t.entries.items.length : Int)

/-- What is promised of one operation: the counters are right after it and it
takes no entry out of completed. -/
def AccountsStep (t : WorkTracker) (_ : TrackerOp) (after : WorkTracker) : Prop :=
  Accounts after ∧ ∀ id, t.status id = some .completed → after.status id = some .completed

/-- The unit whose status an operation overwrites without looking at it. -/
def TrackerOp.overwrites : TrackerOp → Option String
  | .markSent workUnitId _ | .markCompleted workUnitId | .markFailed workUnitId => some workUnitId
  | .addPending _ | .getFailedForConsumer _ => none

/-- The operation overwrites the status of no completed unit. -/
def SparesCompleted (t : WorkTracker) (op : TrackerOp) (_ : WorkTracker) : Prop :=
  ∀ id, op.overwrites = some id → t.status id ≠ some .completed

/-- The counters are right, and no entry has the status that no operation sets. -/
structure Sound (t : WorkTracker) : Prop where
  completed : t.completedCount = (t.entries.items.countP isCompleted : Int)
  live : ∀ e ∈ t.entries.items, e.status ≠ .failed

theorem sound_new : Sound .new := ⟨rfl, by simp [WorkTracker.new]⟩

/-- Without the unused status, outstanding entries are those not completed. -/
theorem Sound.accounts {t : WorkTracker} (sound : Sound t) : Accounts t := by
  refine ⟨sound.completed, ?_⟩
  have complement : t.entries.items.countP WorkTracker.isOutstanding =
      t.entries.items.countP (fun e => !isCompleted e) := by
    refine List.countP_congr fun e member => ?_
    have live := sound.live e member
    cases status : e.status <;> simp_all [WorkTracker.isOutstanding, isCompleted]
  have partition := List.length_eq_countP_add_countP isCompleted (l := t.entries.items)
  simp only [WorkTracker.pendingCount, complement, sound.completed]
  simp only [Bool.not_eq_true, Bool.decide_eq_false] at partition
  omega

theorem status_markSent_self {t : WorkTracker} {id consumerId : String} {old : WorkUnitStatus}
    (tracked : t.status id = some old) : (t.markSent id consumerId).status id = some .sent := by
  obtain ⟨e, found, -⟩ := Option.map_eq_some_iff.mp tracked
  have updated := WorkTracker.find_markSent t id consumerId id
  rw [if_pos rfl, found] at updated
  simp [WorkTracker.status, updated, WorkTracker.toSent]

theorem status_markFailed_self {t : WorkTracker} {id : String} {old : WorkUnitStatus}
    (tracked : t.status id = some old) : (t.markFailed id).status id = some .pending := by
  obtain ⟨e, found, -⟩ := Option.map_eq_some_iff.mp tracked
  have updated := WorkTracker.find_markFailed t id id
  rw [if_pos rfl, found] at updated
  simp [WorkTracker.status, updated, WorkTracker.toPending]

/-- An entry other than the named one keeps its status. -/
theorem status_frame {t after : WorkTracker} {id : String} {f : WorkUnitEntry → WorkUnitEntry}
    (updated : ∀ queried, after.find queried =
      if queried = id then (t.find id).map f else t.find queried)
    (spared : t.status id ≠ some .completed) (queried : String)
    (completed : t.status queried = some .completed) :
    after.status queried = some .completed := by
  have different : queried ≠ id := by
    intro same
    exact spared (same ▸ completed)
  have same := updated queried
  rw [if_neg different] at same
  simpa only [WorkTracker.status, same] using completed

theorem mem_modify_live {t : WorkTracker} {id : String} {f : WorkUnitEntry → WorkUnitEntry}
    (keeps : ∀ e, (f e).workUnitId = e.workUnitId) (sound : Sound t)
    (sets : ∀ e, (f e).status ≠ .failed) :
    ∀ e ∈ (t.entries.modify id f keeps).items, e.status ≠ .failed := by
  intro e member
  obtain ⟨old, present, rfl⟩ := List.mem_map.mp member
  split
  · exact sets old
  · exact sound.live old present

/-- An update of an entry that is not completed, to a status that is not
completed either, leaves the count of completed entries as it was. -/
theorem countP_modify_other {t : WorkTracker} {id : String} {f : WorkUnitEntry → WorkUnitEntry}
    (keeps : ∀ e, (f e).workUnitId = e.workUnitId) (sets : ∀ e, isCompleted (f e) = false)
    (spared : t.status id ≠ some .completed) :
    (t.entries.modify id f keeps).items.countP isCompleted =
      t.entries.items.countP isCompleted := by
  cases found : t.find id with
  | none => rw [KeyedStore.items_modify_absent _ _ _ _ found]
  | some e =>
    have moved := KeyedStore.countP_modify t.entries id f keeps isCompleted e found
    have other : isCompleted e = false := by
      simpa [isCompleted, WorkTracker.status_of_find found] using spared
    simpa [other, sets] using moved

theorem reclaim_completed (consumerId : String) (e : WorkUnitEntry) :
    isCompleted (WorkTracker.reclaim consumerId e) = isCompleted e := by
  unfold WorkTracker.reclaim
  split
  next held =>
    have sent : e.status = .sent := by
      simp only [WorkTracker.isHeldBy, Bool.and_eq_true, decide_eq_true_eq] at held
      exact held.1
    simp [isCompleted, sent]
  next => rfl

theorem status_reclaim {t : WorkTracker} {consumerId id : String}
    (completed : t.status id = some .completed) :
    (t.getFailedForConsumer consumerId).1.status id = some .completed := by
  obtain ⟨e, found, done⟩ := Option.map_eq_some_iff.mp completed
  have updated := WorkTracker.find_getFailedForConsumer t consumerId id
  rw [found] at updated
  have kept := reclaim_completed consumerId e
  simp only [isCompleted, done, decide_true, decide_eq_true_eq] at kept
  simp [WorkTracker.status, updated, kept]

/-- One operation that spares completed units keeps the counters right. -/
theorem sound_step {t after : WorkTracker} {op : TrackerOp} (sound : Sound t)
    (spares : SparesCompleted t op after) (taken : trackerSystem.step t op = some after) :
    Sound after := by
  cases op with
  | addPending entry =>
    simp only [trackerSystem] at taken
    split at taken
    next admitted =>
      obtain ⟨fresh, pending⟩ := admitted
      cases taken
      have items := KeyedStore.items_put_fresh t.entries entry (Option.isNone_iff_eq_none.mp fresh)
      constructor
      · simp [WorkTracker.addPending, items, isCompleted, pending, sound.completed]
      · simp only [WorkTracker.addPending, items, List.mem_cons, forall_eq_or_imp]
        exact ⟨by simp [pending], sound.live⟩
    next => cases taken
  | markSent id consumerId =>
    cases taken
    have spared := spares id rfl
    constructor
    · simp only [WorkTracker.markSent, sound.completed]
      rw [countP_modify_other _ (fun _ => rfl) spared]
    · exact mem_modify_live (WorkTracker.toSent_id consumerId) sound
        (fun _ => by simp [WorkTracker.toSent])
  | markCompleted id =>
    cases taken
    have spared := spares id rfl
    unfold WorkTracker.markCompleted
    split
    next => exact sound
    next e found =>
      constructor
      · have moved := KeyedStore.countP_modify t.entries id WorkTracker.toCompleted
          WorkTracker.toCompleted_id isCompleted e found
        have other : isCompleted e = false := by
          simpa [isCompleted, WorkTracker.status_of_find found] using spared
        have done : isCompleted (WorkTracker.toCompleted e) = true := rfl
        simp only [other, done, if_true, Bool.false_eq_true, if_false] at moved
        simp only [sound.completed]
        omega
      · exact mem_modify_live WorkTracker.toCompleted_id sound
          (fun _ => by simp [WorkTracker.toCompleted])
  | markFailed id =>
    cases taken
    have spared := spares id rfl
    unfold WorkTracker.markFailed
    split
    next => exact sound
    next e found =>
      constructor
      · simp only [sound.completed]
        rw [countP_modify_other _ (fun _ => rfl) spared]
      · exact mem_modify_live WorkTracker.toPending_id sound
          (fun _ => by simp [WorkTracker.toPending])
  | getFailedForConsumer consumerId =>
    cases taken
    have same : isCompleted ∘ WorkTracker.reclaim consumerId = isCompleted :=
      funext (reclaim_completed consumerId)
    constructor
    · simp [WorkTracker.getFailedForConsumer, List.countP_map, same, sound.completed]
    · intro e member
      obtain ⟨old, present, rfl⟩ := List.mem_map.mp member
      have live := sound.live old present
      unfold WorkTracker.reclaim
      split
      · simp
      · exact live

/-- One operation that spares completed units takes none out of completed. -/
theorem keeps_completed {t after : WorkTracker} {op : TrackerOp}
    (spares : SparesCompleted t op after) (taken : trackerSystem.step t op = some after)
    (id : String) (completed : t.status id = some .completed) :
    after.status id = some .completed := by
  cases op with
  | addPending entry =>
    simp only [trackerSystem] at taken
    split at taken
    next admitted =>
      cases taken
      have different : id ≠ entry.workUnitId := by
        intro same
        subst same
        have absent : t.find entry.workUnitId = none :=
          Option.isNone_iff_eq_none.mp admitted.1
        simp [WorkTracker.status, absent] at completed
      have kept := WorkTracker.find_addPending t entry id
      rw [if_neg different] at kept
      simpa only [WorkTracker.status, kept] using completed
    next => cases taken
  | markSent workUnitId consumerId =>
    cases taken
    exact status_frame (WorkTracker.find_markSent t workUnitId consumerId)
      (spares workUnitId rfl) id completed
  | markCompleted workUnitId =>
    cases taken
    exact status_frame (WorkTracker.find_markCompleted t workUnitId)
      (spares workUnitId rfl) id completed
  | markFailed workUnitId =>
    cases taken
    exact status_frame (WorkTracker.find_markFailed t workUnitId)
      (spares workUnitId rfl) id completed
  | getFailedForConsumer consumerId =>
    cases taken
    exact status_reclaim completed

/-- An operation that keeps its promise overwrote no completed unit: mark_sent
and mark_failed would have taken it out, mark_completed would have counted it
twice. -/
theorem spares_of_accounts {t after : WorkTracker} {op : TrackerOp} (sound : Sound t)
    (promised : AccountsStep t op after) (taken : trackerSystem.step t op = some after) :
    SparesCompleted t op after := by
  obtain ⟨accounts, kept⟩ := promised
  intro id overwritten completed
  have still := kept id completed
  cases op with
  | addPending entry => cases overwritten
  | getFailedForConsumer consumerId => cases overwritten
  | markSent workUnitId consumerId =>
    cases overwritten
    cases taken
    rw [status_markSent_self completed] at still
    cases still
  | markFailed workUnitId =>
    cases overwritten
    cases taken
    rw [status_markFailed_self completed] at still
    cases still
  | markCompleted workUnitId =>
    cases overwritten
    cases taken
    obtain ⟨e, found, done⟩ := Option.map_eq_some_iff.mp completed
    have counted := accounts.completed
    have moved := KeyedStore.countP_modify t.entries id WorkTracker.toCompleted
      WorkTracker.toCompleted_id isCompleted e found
    have before : isCompleted e = true := by simp [isCompleted, done]
    have later : isCompleted (WorkTracker.toCompleted e) = true := rfl
    simp only [before, later, if_true, Nat.add_right_cancel_iff] at moved
    simp only [WorkTracker.markCompleted, found, moved, sound.completed] at counted
    omega

/-- Along every run from the empty tracker, the counters are right after each
operation and no entry leaves completed, exactly when no operation of the run
overwrites the status of a completed unit. -/
theorem accounting_iff (ops : List TrackerOp) :
    trackerSystem.Along AccountsStep .new ops ↔ trackerSystem.Along SparesCompleted .new ops := by
  refine TransitionSystem.along_iff Sound ?_ ?_ sound_new
  · intro t op after sound taken
    constructor
    · intro promised
      exact spares_of_accounts sound promised taken
    · intro spares
      exact ⟨(sound_step sound spares taken).accounts, keeps_completed spares taken⟩
  · intro t op after sound spares taken
    exact sound_step sound spares taken

def unit0 : WorkUnitEntry :=
  ⟨"prod-1-0", 0, .null, .pending, "", "", ""⟩

/-- One unit, sent once, whose success is reported twice: the counter says two
units are completed and the tracker holds one. -/
theorem duplicate_success_miscounts :
    ¬ ∀ ops, trackerSystem.Along AccountsStep .new ops := by
  intro claimed
  have along := claimed [.addPending unit0, .markSent "prod-1-0" "cons-1",
    .markCompleted "prod-1-0", .markCompleted "prod-1-0"]
  have last := (((along _ rfl).2 _ rfl).2 _ rfl).2 _ rfl
  exact absurd last.1.1.completed (by decide)

end PnC.Guarantees.TrackerAccounting
