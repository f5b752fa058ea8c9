import Mathlib.Data.List.Nodup
import Mathlib.Order.Lattice

/-!
# The items with the smallest keys

Items are sorted by a key and a front part of them is kept. When the keys are distinct,
what is kept does not depend on the order in which the items come.
-/
namespace PnC.Library

universe u v
variable {α : Type u} {κ : Type v} [LinearOrder κ] (key : α → κ)

def ascending (items : List α) : List α :=
  items.mergeSort (fun a b => decide (key a ≤ key b))

/-- `chosen` are `n` of the items, or all when there are fewer: the ones with the smallest
keys, in increasing order. -/
structure Smallest (n : Nat) (items chosen : List α) : Prop where
  length : chosen.length = min n items.length
  subset : ∀ a ∈ chosen, a ∈ items
  increasing : chosen.Pairwise fun a b => key a < key b
  least : ∀ a ∈ chosen, ∀ b ∈ items, b ∉ chosen → key a < key b

theorem ascending_perm (items : List α) : (ascending key items).Perm items :=
  List.mergeSort_perm ..

variable {key} {items others : List α}

/-- Distinct keys come out in strictly increasing order. -/
theorem pairwise_ascending (distinct : (items.map key).Nodup) :
    (ascending key items).Pairwise fun a b => key a < key b := by
  have sorted : (ascending key items).Pairwise fun a b => decide (key a ≤ key b) = true := by
    apply List.pairwise_mergeSort
    · intro a b c
      simp only [decide_eq_true_eq]
      exact le_trans
    · intro a b
      simpa using le_total (key a) (key b)
  have apart : (ascending key items).Pairwise fun a b => key a ≠ key b := by
    rw [← List.pairwise_map]
    exact ((ascending_perm key items).map key).nodup_iff.mpr distinct
  refine (sorted.and apart).imp fun {a b} both => ?_
  exact lt_of_le_of_ne (of_decide_eq_true both.1) both.2

theorem ascending_congr (distinct : (items.map key).Nodup) (same : others.Perm items) :
    ascending key others = ascending key items := by
  have distinct' : (others.map key).Nodup := (same.map key).nodup_iff.mpr distinct
  apply List.Perm.eq_of_pairwise ?_ (pairwise_ascending distinct') (pairwise_ascending distinct)
  · exact (ascending_perm key others).trans (same.trans (ascending_perm key items).symm)
  · intro a b _ _ less greater
    exact absurd greater (lt_asymm less)

/-- A front part of the sorted items has the smallest keys. -/
theorem smallest_take (distinct : (items.map key).Nodup) (n : Nat) :
    Smallest key n items ((ascending key items).take n) := by
  have sorted := pairwise_ascending distinct
  have same := ascending_perm key items
  refine ⟨?_, ?_, sorted.sublist (List.take_sublist ..), ?_⟩
  · rw [List.length_take, same.length_eq]
  · intro a member
    exact same.mem_iff.mp (List.mem_of_mem_take member)
  · intro a member b present out
    rw [← List.take_append_drop n (ascending key items), List.pairwise_append] at sorted
    apply sorted.2.2 a member b
    have placed := same.mem_iff.mpr present
    rw [← List.take_append_drop n (ascending key items), List.mem_append] at placed
    exact placed.resolve_left out

end PnC.Library
