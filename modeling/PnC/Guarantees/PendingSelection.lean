import PnC.Library.Decimal
import PnC.Source.WorkTracker

/-!
# The pending units that are selected

get_pending collects the entries in the order of the map, sorts them and cuts the result
off. The test that decides on the cut compares `count` with the number of entries cast to
int, which is negative from 2^31 entries on.
-/
namespace PnC.Guarantees.PendingSelection

open PnC.Library PnC.Source

/-- get_pending returns the Pending entries with the smallest seq values, `count` of them if
there are so many, in increasing order; it leaves the tracker as it is, and returns the same
list for every order of the map. -/
def Selects (t : WorkTracker) (count : Int) : Prop :=
  ∃ chosen, t.getPending count = (t, .ok chosen) ∧
    Smallest WorkUnitEntry.seq count.toNat t.pendingEntries chosen ∧
    ∀ other : WorkTracker, other.entries.items.Perm t.entries.items →
      other.getPending count = (other, .ok chosen)

/-- The comparison with the cast number decides on the cut as the number itself would. -/
def CutSeen (t : WorkTracker) (count : Int) : Prop :=
  count < t.pendingEntries.length → count < toInt32 t.pendingEntries.length

theorem getPending_eq (t : WorkTracker) {count : Int} (nonneg : 0 ≤ count) :
    t.getPending count =
      (t, .ok (if count < toInt32 t.pendingEntries.length then
        (ascending WorkUnitEntry.seq t.pendingEntries).take count.toNat
      else ascending WorkUnitEntry.seq t.pendingEntries)) := by
  have sorted := (ascending_perm WorkUnitEntry.seq t.pendingEntries).length_eq
  unfold WorkTracker.getPending
  dsimp only
  rw [sorted, if_neg (by omega : ¬ count < 0)]
  split <;> rfl

/-- Where the cut is seen, the front part of the sorted entries is returned. -/
theorem getPending_of_cutSeen {t : WorkTracker} {count : Int} (nonneg : 0 ≤ count)
    (seen : CutSeen t count) :
    t.getPending count =
      (t, .ok ((ascending WorkUnitEntry.seq t.pendingEntries).take count.toNat)) := by
  have sorted := (ascending_perm WorkUnitEntry.seq t.pendingEntries).length_eq
  rw [getPending_eq t nonneg]
  split
  next => rfl
  next whole =>
    have all : ¬ count < t.pendingEntries.length := fun more => whole (seen more)
    rw [List.take_of_length_le (by omega)]

theorem pendingEntries_perm {t other : WorkTracker}
    (same : other.entries.items.Perm t.entries.items) :
    other.pendingEntries.Perm t.pendingEntries := same.filter _

/-- With distinct seq values get_pending selects the first Pending entries exactly when the
cast does not hide that there are more of them than asked for. -/
theorem selects_iff (t : WorkTracker)
    (distinct : (t.entries.items.map WorkUnitEntry.seq).Nodup) (count : Int)
    (nonneg : 0 ≤ count) : Selects t count ↔ CutSeen t count := by
  have pendingDistinct : (t.pendingEntries.map WorkUnitEntry.seq).Nodup :=
    distinct.sublist (List.filter_sublist.map _)
  constructor
  · intro selects more
    obtain ⟨chosen, returned, smallest, -⟩ := selects
    rw [getPending_eq t nonneg] at returned
    have sorted := (ascending_perm WorkUnitEntry.seq t.pendingEntries).length_eq
    have length := smallest.length
    split at returned
    next less => exact less
    next =>
      -- all entries were returned, more than were asked for
      cases returned
      omega
  · intro seen
    refine ⟨_, getPending_of_cutSeen nonneg seen, smallest_take pendingDistinct _, ?_⟩
    intro other same
    have perm := pendingEntries_perm same
    have seen' : CutSeen other count := by
      unfold CutSeen
      rw [perm.length_eq]
      exact seen
    rw [getPending_of_cutSeen nonneg seen', ascending_congr pendingDistinct perm]

def pendingUnit (seq : Nat) : WorkUnitEntry where
  workUnitId := "wu-" ++ toString (seq : Int)
  seq := seq
  job := .object []
  status := .pending
  consumerId := ""
  sentAt := ""
  completedAt := ""

/-- Two entries of which the map visits the second first, asked for one. -/
theorem selects_iff_one_of_two :
    Selects ((WorkTracker.new.addPending (pendingUnit 0)).addPending (pendingUnit 1)) 1 :=
  (selects_iff _ (by decide) 1 (by decide)).mpr fun _ => by decide

/-- A tracker with `n` pending units. -/
def pendingUnits (n : Nat) : WorkTracker where
  entries :=
    { items := (List.range n).map pendingUnit
      unique := by
        rw [List.map_map]
        apply List.nodup_range.map
        intro i j same
        have numbers : toString (i : Int) = toString (j : Int) :=
          (String.append_right_inj _).mp same
        exact Int.ofNat.inj (toString_int_injective numbers) }
  lastCompletedSeq := -1
  completedCount := 0
  failedCount := 0

theorem distinct_pendingUnits (n : Nat) :
    ((pendingUnits n).entries.items.map WorkUnitEntry.seq).Nodup := by
  change (((List.range n).map pendingUnit).map WorkUnitEntry.seq).Nodup
  rw [List.map_map]
  apply List.nodup_range.map
  intro i j same
  exact Int.ofNat.inj same

theorem length_pendingUnits (n : Nat) : (pendingUnits n).pendingEntries.length = n := by
  have all : (pendingUnits n).pendingEntries = (List.range n).map pendingUnit := by
    apply List.filter_eq_self.mpr
    intro entry member
    obtain ⟨i, -, rfl⟩ := List.mem_map.mp member
    rfl
  rw [all, List.length_map, List.length_range]

/-- Asked for no unit of 2^31 pending ones, get_pending returns them all. -/
theorem cast_hides_the_cut :
    ¬ ∀ (t : WorkTracker), (t.entries.items.map WorkUnitEntry.seq).Nodup →
      ∀ count : Int, 0 ≤ count → Selects t count := by
  intro claimed
  have selects := claimed (pendingUnits (2 ^ 31)) (distinct_pendingUnits _) 0 (by decide)
  have seen := (selects_iff _ (distinct_pendingUnits _) 0 (by decide)).mp selects
  unfold CutSeen at seen
  rw [length_pendingUnits] at seen
  exact absurd (seen (by decide)) (by decide)

end PnC.Guarantees.PendingSelection
