import Mathlib.Data.Int.Order.Basic
import PnC.Library.KeyedStore
import PnC.Library.SmallestFirst
import PnC.Source.Json

/-!
# Work tracker

work_tracker.cpp. Each public operation holds the tracker's mutex for its whole
body, so each is one function on the tracker. The map is a store keyed by the
unit id; its list order stands for the unspecified iteration order.
-/
namespace PnC.Source

open PnC.Library

inductive WorkUnitStatus where
  | pending | sent | completed | failed
  deriving DecidableEq, Repr

structure WorkUnitEntry where
  workUnitId : String
  seq : Int
  job : Json
  status : WorkUnitStatus
  consumerId : String
  sentAt : String
  completedAt : String

structure WorkTracker where
  entries : KeyedStore String WorkUnitEntry WorkUnitEntry.workUnitId
  lastCompletedSeq : Int
  completedCount : Int
  failedCount : Int

namespace WorkTracker

/-- WorkTracker::WorkTracker -/
def new : WorkTracker := ⟨.empty, -1, 0, 0⟩

/-- add_pending: the entry is stored as given and replaces one with the same id. -/
def addPending (t : WorkTracker) (entry : WorkUnitEntry) : WorkTracker :=
  { t with entries := t.entries.put entry }

/-- find -/
def find (t : WorkTracker) (workUnitId : String) : Option WorkUnitEntry :=
  t.entries.find workUnitId

/-- The status under an id, if the id is tracked. -/
def status (t : WorkTracker) (workUnitId : String) : Option WorkUnitStatus :=
  (t.find workUnitId).map (·.status)

/-- The update mark_sent makes to the entry it finds. -/
def toSent (consumerId : String) (e : WorkUnitEntry) : WorkUnitEntry :=
  { e with status := .sent, consumerId := consumerId, sentAt := "" }

/-- The update mark_completed makes to the entry it finds. -/
def toCompleted (e : WorkUnitEntry) : WorkUnitEntry :=
  { e with status := .completed, completedAt := "" }

/-- The update mark_failed makes to the entry it finds. -/
def toPending (e : WorkUnitEntry) : WorkUnitEntry :=
  { e with status := .pending, consumerId := "", sentAt := "" }

theorem toSent_id (consumerId : String) (e : WorkUnitEntry) :
    (toSent consumerId e).workUnitId = e.workUnitId := rfl

theorem toCompleted_id (e : WorkUnitEntry) : (toCompleted e).workUnitId = e.workUnitId := rfl

theorem toPending_id (e : WorkUnitEntry) : (toPending e).workUnitId = e.workUnitId := rfl

/-- mark_sent -/
def markSent (t : WorkTracker) (workUnitId consumerId : String) : WorkTracker :=
  { t with entries := t.entries.modify workUnitId (toSent consumerId) (toSent_id consumerId) }

/-- mark_completed: the status before the call is not looked at. -/
def markCompleted (t : WorkTracker) (workUnitId : String) : WorkTracker :=
  match t.find workUnitId with
  | none => t
  | some entry =>
    { t with
      entries := t.entries.modify workUnitId toCompleted toCompleted_id
      lastCompletedSeq := entry.seq
      completedCount := t.completedCount + 1 }

/-- mark_failed: the unit goes back to pending whatever its status was. -/
def markFailed (t : WorkTracker) (workUnitId : String) : WorkTracker :=
  match t.find workUnitId with
  | none => t
  | some _ =>
    { t with
      entries := t.entries.modify workUnitId toPending toPending_id
      failedCount := t.failedCount + 1 }

/-- The entries that get_pending collects, in the order of the map. -/
def pendingEntries (t : WorkTracker) : List WorkUnitEntry :=
  t.entries.items.filter (·.status = .pending)

/-- get_pending: pending entries in sequence order, at most `count` of them. Their number is
cast to int for the comparison. `resize` with a negative count asks for more than a vector
may hold. -/
def getPending (t : WorkTracker) (count : Int) :
    WorkTracker × Except Exception (List WorkUnitEntry) :=
  let pending := ascending WorkUnitEntry.seq t.pendingEntries
  (t,
    if count < toInt32 pending.length then
      if count < 0 then .error .lengthError else .ok (pending.take count.toNat)
    else .ok pending)

/-- The entries that pending_count and to_checkpoint count. -/
def isOutstanding (e : WorkUnitEntry) : Bool :=
  e.status = .pending || e.status = .sent

/-- pending_count -/
def pendingCount (t : WorkTracker) : Int := t.entries.items.countP isOutstanding

/-- The entries that get_failed_for_consumer takes back from a consumer. -/
def isHeldBy (consumerId : String) (e : WorkUnitEntry) : Bool :=
  e.status = .sent && e.consumerId = consumerId

/-- The update get_failed_for_consumer makes to each entry it visits. -/
def reclaim (consumerId : String) (e : WorkUnitEntry) : WorkUnitEntry :=
  if isHeldBy consumerId e then { e with status := .pending, consumerId := "" } else e

theorem reclaim_id (consumerId : String) (e : WorkUnitEntry) :
    (reclaim consumerId e).workUnitId = e.workUnitId := by
  unfold reclaim
  split <;> rfl

/-- get_failed_for_consumer: the new tracker and the ids it took back. -/
def getFailedForConsumer (t : WorkTracker) (consumerId : String) : WorkTracker × List String :=
  ({ t with entries := t.entries.mapItems (reclaim consumerId) (reclaim_id consumerId) },
    (t.entries.items.filter (isHeldBy consumerId)).map (·.workUnitId))

theorem status_of_find {t : WorkTracker} {workUnitId : String} {entry : WorkUnitEntry}
    (found : t.find workUnitId = some entry) : t.status workUnitId = some entry.status := by
  rw [status, found]
  rfl

theorem find_addPending (t : WorkTracker) (entry : WorkUnitEntry) (queried : String) :
    (t.addPending entry).find queried =
      if queried = entry.workUnitId then some entry else t.find queried :=
  KeyedStore.find_put _ _ _

theorem find_markSent (t : WorkTracker) (workUnitId consumerId queried : String) :
    (t.markSent workUnitId consumerId).find queried =
      if queried = workUnitId then (t.find workUnitId).map (toSent consumerId)
      else t.find queried :=
  KeyedStore.find_modify _ _ _ (toSent_id consumerId) _

theorem find_markCompleted (t : WorkTracker) (workUnitId queried : String) :
    (t.markCompleted workUnitId).find queried =
      if queried = workUnitId then (t.find workUnitId).map toCompleted else t.find queried := by
  unfold markCompleted
  split
  next absent =>
    by_cases same : queried = workUnitId
    · simp [same, absent]
    · simp [same]
  next => exact KeyedStore.find_modify _ _ _ toCompleted_id _

theorem find_markFailed (t : WorkTracker) (workUnitId queried : String) :
    (t.markFailed workUnitId).find queried =
      if queried = workUnitId then (t.find workUnitId).map toPending else t.find queried := by
  unfold markFailed
  split
  next absent =>
    by_cases same : queried = workUnitId
    · simp [same, absent]
    · simp [same]
  next => exact KeyedStore.find_modify _ _ _ toPending_id _

theorem find_getFailedForConsumer (t : WorkTracker) (consumerId queried : String) :
    (t.getFailedForConsumer consumerId).1.find queried =
      (t.find queried).map (reclaim consumerId) :=
  KeyedStore.find_mapItems _ _ (reclaim_id consumerId) _

end WorkTracker

end PnC.Source
