import PnC.Library.KeyedStore
import PnC.Library.Recency

/-!
# The ids of completed units

is_completed and mark_completed of consumer.cpp, each one critical section of
completed_ids_mutex_: a list in the order of use and a set for the lookup.
-/
namespace PnC.Source

open PnC.Library

/-- kMaxCompletedIds -/
def maxCompletedIds : Nat := 3000

structure CompletedIds where
  /-- completed_ids_lru_, the front first -/
  lru : List String
  set : KeyedStore String String id

namespace CompletedIds

def empty : CompletedIds := ⟨[], .empty⟩

def isCompleted (c : CompletedIds) (id : String) : Bool := (c.set.find id).isSome

/-- The eviction loop, which takes one id off the list each time; `steps` bounds how often. -/
def evictOldest : (steps : Nat) → CompletedIds → CompletedIds
  | 0, c => c
  | steps + 1, c =>
    if maxCompletedIds < c.lru.length then
      match c.lru.getLast? with
      | none => c
      | some oldest => evictOldest steps ⟨c.lru.dropLast, c.set.erase oldest⟩
    else c

def markCompleted (c : CompletedIds) (id : String) : CompletedIds :=
  let lru := if c.isCompleted id then c.lru.filter (· ≠ id) else c.lru
  evictOldest (lru.length + 1) ⟨id :: lru, c.set.put id⟩

/-- The list holds the most recently marked ids, and the set the same ones. -/
structure Holds (c : CompletedIds) (marks : List String) : Prop where
  lru : c.lru = (recent marks).take maxCompletedIds
  set : ∀ id, c.isCompleted id = true ↔ id ∈ c.lru

theorem isCompleted_put (lru : List String) (set : KeyedStore String String id)
    (marked queried : String) :
    isCompleted ⟨lru, set.put marked⟩ queried = true ↔
      queried = marked ∨ (set.find queried).isSome = true := by
  unfold isCompleted
  rw [KeyedStore.find_put]
  split
  next same => simp [show queried = marked from same]
  next other => simp [show ¬ queried = marked from other]

theorem isCompleted_erase (lru : List String) (set : KeyedStore String String id)
    (evicted queried : String) :
    isCompleted ⟨lru, set.erase evicted⟩ queried = true ↔
      queried ≠ evicted ∧ (set.find queried).isSome = true := by
  unfold isCompleted
  rw [KeyedStore.find_erase]
  split
  next same => simp [same]
  next other => simp [other]

/-- The loop keeps the front of the list, and the set in step with it. -/
theorem evictOldest_eq {c : CompletedIds} (distinct : c.lru.Nodup)
    (same : ∀ id, c.isCompleted id = true ↔ id ∈ c.lru) (steps : Nat)
    (enough : c.lru.length ≤ maxCompletedIds + steps) :
    (evictOldest steps c).lru = c.lru.take maxCompletedIds ∧
      ∀ id, (evictOldest steps c).isCompleted id = true ↔ id ∈ (evictOldest steps c).lru := by
  induction steps generalizing c with
  | zero => exact ⟨(List.take_of_length_le enough).symm, same⟩
  | succ steps ih =>
    unfold evictOldest
    split
    next long =>
      obtain ⟨lru, set⟩ := c
      dsimp only at long enough distinct ⊢
      split
      next nothing =>
        rw [List.getLast?_eq_none_iff.mp nothing] at long
        cases long
      next oldest last =>
        obtain ⟨front, rfl⟩ := List.getLast?_eq_some_iff.mp last
        rw [List.length_append, List.length_singleton] at long enough
        rw [List.dropLast_concat]
        rw [List.nodup_append] at distinct
        obtain ⟨frontDistinct, -, apart⟩ := distinct
        have within : maxCompletedIds ≤ front.length := by omega
        rw [List.take_append_of_le_length within]
        refine ih frontDistinct (fun id => ?_) (by dsimp only; omega)
        have before := same id
        rw [isCompleted_erase]
        constructor
        · intro ⟨other, present⟩
          rcases List.mem_append.mp (before.mp present) with member | last
          · exact member
          · exact absurd (List.mem_singleton.mp last) other
        · intro member
          exact ⟨apart id member oldest List.mem_cons_self,
            before.mpr (List.mem_append_left _ member)⟩
    next short => exact ⟨(List.take_of_length_le (by omega)).symm, same⟩

theorem holds_empty : empty.Holds [] := by
  refine ⟨rfl, fun id => ?_⟩
  simp [isCompleted, empty]

/-- Marking an id makes it the most recent one. -/
theorem Holds.mark {c : CompletedIds} {marks : List String} (holds : c.Holds marks) (id : String) :
    (c.markCompleted id).Holds (id :: marks) := by
  have distinct : c.lru.Nodup := by
    rw [holds.lru]
    exact (nodup_recent marks).sublist (List.take_sublist ..)
  have moved : (if c.isCompleted id = true then c.lru.filter (· ≠ id) else c.lru) =
      c.lru.filter (· ≠ id) := by
    split
    next => rfl
    next fresh =>
      refine (List.filter_eq_self.mpr fun other member => ?_).symm
      have apart : other ≠ id := fun same => fresh ((holds.set id).mpr (same ▸ member))
      simpa using apart
  have unique : (id :: c.lru.filter (· ≠ id)).Nodup :=
    List.nodup_cons.mpr ⟨by simp, distinct.filter _⟩
  have same : ∀ queried,
      isCompleted ⟨id :: c.lru.filter (· ≠ id), c.set.put id⟩ queried = true ↔
        queried ∈ id :: c.lru.filter (· ≠ id) := by
    intro queried
    rw [isCompleted_put, List.mem_cons, List.mem_filter]
    have before := holds.set queried
    unfold isCompleted at before
    rw [before]
    by_cases equal : queried = id <;> simp [equal]
  have evicted := evictOldest_eq unique same ((c.lru.filter (· ≠ id)).length + 1) (by
    rw [List.length_cons]
    omega)
  unfold markCompleted
  rw [moved]
  refine ⟨?_, evicted.2⟩
  rw [evicted.1, recent, holds.lru]
  exact congrArg (id :: ·) (take_filter_take (nodup_recent marks) id 2999)

/-- An id is found while fewer than 3000 others were marked after it. -/
theorem Holds.isCompleted_of_few {c : CompletedIds} {marks : List String} (holds : c.Holds marks)
    {id : String} (marked : id ∈ marks)
    (few : (recent (marks.takeWhile (· ≠ id))).length < maxCompletedIds) :
    c.isCompleted id = true := by
  rw [holds.set, holds.lru]
  exact mem_take_recent marked few

end CompletedIds

end PnC.Source
