import Mathlib.Order.WellFounded
import PnC.Library.Transition

/-!
# What every run comes to

`Inevitable` says of a state that every run of allowed events from it comes to a goal: it can
neither go on for ever nor get stuck before. A measure that each allowed step lowers proves
it where no state but a goal is without an allowed step.
-/
namespace PnC.Library

universe u v w

namespace TransitionSystem

variable {σ : Type u} {ε : Type v} (sys : TransitionSystem σ ε)

inductive Inevitable (allowed : σ → ε → Prop) (goal : σ → Prop) : σ → Prop where
  | reached {s : σ} : goal s → Inevitable allowed goal s
  | onwards {s : σ} : (∃ e t, allowed s e ∧ sys.step s e = some t) →
      (∀ e t, allowed s e → sys.step s e = some t → Inevitable allowed goal t) →
      Inevitable allowed goal s

variable {sys} {allowed : σ → ε → Prop} {goal : σ → Prop}

theorem inevitable_of_measure {α : Type w} [LT α] [WellFoundedLT α] (measure : σ → α)
    {inv : σ → Prop} (preserved : ∀ s e t, inv s → allowed s e → sys.step s e = some t → inv t)
    (progress : ∀ s, inv s → goal s ∨ ∃ e t, allowed s e ∧ sys.step s e = some t)
    (lowers : ∀ s e t, inv s → allowed s e → sys.step s e = some t → measure t < measure s)
    {s : σ} (here : inv s) : sys.Inevitable allowed goal s := by
  induction hm : measure s using WellFoundedLT.induction generalizing s with
  | ind m ih =>
    obtain done | moves := progress s here
    · exact .reached done
    · refine .onwards moves ?_
      intro e t may taken
      exact ih (measure t) (hm ▸ lowers s e t here may taken) (preserved s e t here may taken) rfl

end TransitionSystem

end PnC.Library
