import Mathlib.Init

/-!
# Computations that may fail, taken apart

A bind that succeeds is two computations that succeed.
-/
namespace PnC.Library

universe u v
variable {ε : Type u} {α β : Type v}

theorem bind_eq_ok {first : Except ε α} {next : α → Except ε β} {value : β} :
    first >>= next = .ok value ↔ ∃ a, first = .ok a ∧ next a = .ok value := by
  cases first with
  | error e =>
    constructor
    · intro failed
      cases failed
    · rintro ⟨a, failed, -⟩
      cases failed
  | ok a =>
    constructor
    · intro succeeds
      exact ⟨a, rfl, succeeds⟩
    · rintro ⟨b, same, succeeds⟩
      cases same
      exact succeeds

/-- What goes wrong in a bind goes wrong first, or after a success. -/
theorem bind_eq_error {first : Except ε α} {next : α → Except ε β} {e : ε} :
    first >>= next = .error e ↔
      first = .error e ∨ ∃ a, first = .ok a ∧ next a = .error e := by
  cases first with
  | error d =>
    constructor
    · intro failed
      cases failed
      exact Or.inl rfl
    · rintro (failed | ⟨a, same, -⟩)
      · cases failed
        rfl
      · cases same
  | ok a =>
    constructor
    · intro failed
      exact Or.inr ⟨a, rfl, failed⟩
    · rintro (failed | ⟨b, same, failed⟩)
      · cases failed
      · cases same
        exact failed

end PnC.Library
