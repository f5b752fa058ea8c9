import Mathlib.Data.List.Induction
import PnC.Source.CompletedIds

/-!
# The cache of completed ids

mark_completed keeps a list and a set in step: the list without repetitions and at most
3000 long, the set with the ids of the list. What they hold are the ids used last.
-/
namespace PnC.Guarantees.CompletedCache

open PnC.Library PnC.Source

/-- The cache after calls of mark_completed with these ids, one after the other. -/
def markAll (ids : List String) : CompletedIds :=
  ids.foldl CompletedIds.markCompleted .empty

/-- The id is among the `n` different ids that were passed last: it was passed, and fewer
than `n` different ones after it. -/
def AmongLast (n : Nat) (ids : List String) (id : String) : Prop :=
  ∃ before after, ids = before ++ id :: after ∧ id ∉ after ∧ after.dedup.length < n

theorem holds_markAll (ids : List String) : (markAll ids).Holds ids.reverse := by
  induction ids using List.reverseRecOn with
  | nil => exact CompletedIds.holds_empty
  | append_singleton ids id ih =>
    rw [List.reverse_append, markAll, List.foldl_append]
    exact ih.mark id

/-- The history of the library is newest first. -/
theorem amongLast_iff (n : Nat) (ids : List String) (id : String) :
    AmongLast n ids id ↔ id ∈ (recent ids.reverse).take n := by
  have length : ∀ part : List String, part.reverse.dedup.length = part.dedup.length := by
    intro part
    apply List.Perm.length_eq
    exact (List.reverse_perm part).dedup
  rw [mem_take_recent_iff]
  constructor
  · intro position
    obtain ⟨before, after, rfl, last, few⟩ := position
    refine ⟨after.reverse, before.reverse, by simp, by simpa using last, ?_⟩
    rw [length]
    exact few
  · intro position
    obtain ⟨later, earlier, same, last, few⟩ := position
    refine ⟨earlier.reverse, later.reverse, ?_, by simpa using last, ?_⟩
    · rw [← List.reverse_reverse ids, same]
      simp
    · rw [length]
      exact few

/-- After any calls of mark_completed the list has no repetitions, the ids of the set and at
most 3000 of them, and is_completed finds the 3000 ids marked last. -/
theorem cache_is_lru (ids : List String) :
    (markAll ids).lru.Nodup ∧
    (markAll ids).set.items.Perm (markAll ids).lru ∧
    (markAll ids).lru.length ≤ 3000 ∧
    ∀ id, (markAll ids).isCompleted id = true ↔ AmongLast 3000 ids id := by
  have holds := holds_markAll ids
  have distinct : (markAll ids).lru.Nodup := by
    rw [holds.lru]
    exact (nodup_recent _).sublist (List.take_sublist ..)
  refine ⟨distinct, ?_, ?_, ?_⟩
  · have unique := (markAll ids).set.unique
    rw [List.map_id] at unique
    rw [List.perm_ext_iff_of_nodup unique distinct]
    intro id
    rw [← holds.set, CompletedIds.isCompleted, Option.isSome_iff_exists]
    constructor
    · intro member
      exact ⟨id, KeyedStore.find_of_mem member⟩
    · intro found
      obtain ⟨stored, found⟩ := found
      obtain ⟨member, rfl⟩ := KeyedStore.find_eq_some_iff.mp found
      exact member
  · rw [holds.lru]
    exact List.length_take_le ..
  · intro id
    rw [holds.set, holds.lru, amongLast_iff]
    exact Iff.rfl

/-- A repeated id moves to the front and is kept once. -/
example : (markAll ["u-0", "u-1", "u-0"]).lru = ["u-0", "u-1"] := by decide

end PnC.Guarantees.CompletedCache
