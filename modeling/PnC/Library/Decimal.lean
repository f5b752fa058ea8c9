import Mathlib

/-!
# Decimal text of integers

What can be read off the text that `toString` gives an integer.
-/
namespace PnC.Library

theorem toString_int_injective {m n : Int} (same : toString m = toString n) : m = n :=
  Int.repr_inj.mp same

/-- The text has digits and at most a minus sign. -/
theorem not_mem_toString_int {c : Char} (noDigit : c.isDigit = false) (noSign : c ≠ '-') (n : Int) :
    c ∉ (toString n).toList := by
  have digits : ∀ m : Nat, c ∉ m.repr.toList := by
    intro m member
    rw [Nat.toList_repr] at member
    have digit := Nat.isDigit_of_mem_toDigits (by decide) (by decide) member
    rw [noDigit] at digit
    cases digit
  cases n with
  | ofNat m => exact digits m
  | negSucc m =>
    intro member
    change c ∈ ("-" ++ (m + 1).repr).toList at member
    rw [String.toList_append, List.mem_append] at member
    rcases member with sign | rest
    · exact noSign (List.mem_singleton.mp sign)
    · exact digits (m + 1) rest

end PnC.Library
