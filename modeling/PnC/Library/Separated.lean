import Mathlib.Data.List.Basic

/-!
# Texts that can be taken apart again

A text is determined by its parts where the parts do not contain the separator, and a
list by its image where every element can be found again from its own.
-/
namespace PnC.Library

universe u v
variable {α : Type u} {β : Type v}

/-- What is in front of the first separator, and what is behind it. -/
theorem append_cons_injective [DecidableEq α] {separator : α} {first second : List α}
    {rest other : List α} (clear : separator ∉ first) (clear' : separator ∉ second)
    (same : first ++ separator :: rest = second ++ separator :: other) :
    first = second ∧ rest = other := by
  have front : ∀ {part : List α} (tail : List α), separator ∉ part →
      (part ++ separator :: tail).takeWhile (· ≠ separator) = part := by
    intro part tail clear
    rw [List.takeWhile_append_of_pos, List.takeWhile_cons_of_neg (by simp), List.append_nil]
    intro a member
    simpa using ne_of_mem_of_not_mem member clear
  have fronts : first = second := by
    rw [← front rest clear, same, front other clear']
  subst fronts
  exact ⟨rfl, List.tail_eq_of_cons_eq (List.append_cancel_left same)⟩

/-- Parts joined by a separator that is in none of them; no part at all and one that is
empty are joined to the same text. -/
theorem intercalate_injective [DecidableEq α] {separator : α} {parts others : List (List α)}
    (clear : ∀ part ∈ parts, separator ∉ part) (clear' : ∀ part ∈ others, separator ∉ part)
    (both : parts = [] ↔ others = [])
    (same : [separator].intercalate parts = [separator].intercalate others) : parts = others := by
  by_cases empty : parts = []
  · rw [empty, both.mp empty]
  · have split := congrArg (List.splitOn separator) same
    rwa [List.splitOn_intercalate separator clear empty,
      List.splitOn_intercalate separator clear' (both.not.mp empty)] at split

/-- Elements that `back` finds from their images. -/
theorem map_injective_of_back {f : α → β} {back : β → α} {list other : List α}
    (found : ∀ a ∈ list, back (f a) = a) (found' : ∀ a ∈ other, back (f a) = a)
    (same : list.map f = other.map f) : list = other := by
  have again : ∀ {list : List α}, (∀ a ∈ list, back (f a) = a) → (list.map f).map back = list := by
    intro list found
    rw [List.map_map]
    exact (List.map_congr_left found).trans (List.map_id list)
  rw [← again found, same, again found']

end PnC.Library
