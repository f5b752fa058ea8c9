import Mathlib.Logic.Function.Iterate
import PnC.Source.Json

/-!
# The plugin interface

TestPlugin of test_plugin.h over the plugin's own state. next_unit fills in the
job of the message it is given and returns true, or returns false; it may also
throw, and an undefined or endless computation inside it is a `Fault`.
-/
namespace PnC.Source

inductive NextUnit (σ : Type) where
  | unit (state : σ) (job : Json)
  | exhausted (state : σ)
  | threw (state : σ) (what : Exception)
  | stuck (fault : Fault)

/-- How a startup function can fail to return. -/
inductive StartupFailure where
  | threw (what : Exception)
  | fault (fault : Fault)
  deriving DecidableEq

/-- `if (resume_state.contains(key)) member = resume_state[key].get<T>();` -/
def resumeField {α : Type} (resume : Json) (key : String) (current : α)
    (get : Json → Except Exception α) : Except StartupFailure α :=
  if resume.contains key then
    match resume.require key get with
    | .ok stored => .ok stored
    | .error what => .error (.threw what)
  else .ok current

structure TestPlugin (σ : Type) where
  nextUnit : σ → NextUnit σ
  checkpoint : σ → Json
  exitConditions : σ → Bool

namespace TestPlugin

variable {σ : Type} (plugin : TestPlugin σ)

/-- One of the next `count` calls of next_unit, made one after the other, returns
false or throws. -/
def StopsShort : Nat → σ → Prop
  | 0, _ => False
  | count + 1, s =>
    match plugin.nextUnit s with
    | .unit next _ => StopsShort count next
    | .exhausted _ | .threw _ _ => True
    | .stuck _ => False

/-- The state after one call, however the call ended. -/
def after (s : σ) : σ :=
  match plugin.nextUnit s with
  | .unit next _ => next
  | .exhausted state | .threw state _ => state
  | .stuck _ => s

/-- The call that `n` others precede gives a unit with this job. -/
def Gives (s : σ) (n : Nat) (job : Json) : Prop :=
  ∃ next, plugin.nextUnit (plugin.after^[n] s) = .unit next job

end TestPlugin

end PnC.Source
