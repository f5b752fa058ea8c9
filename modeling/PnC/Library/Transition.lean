import Mathlib.Data.List.Basic

/-!
# Guarded transition systems

A system is an executable step function: `step s e` is `some t` when the event
`e` is enabled in `s` and leads to `t`, and `none` when it is not enabled. A run
replays a list of events. `Along` states a property of every step of a run, over
the state before the step, the event and the state after it; a condition that
only constrains the inputs ignores the last argument.
-/
namespace PnC.Library

universe u v

structure TransitionSystem (σ : Type u) (ε : Type v) where
  step : σ → ε → Option σ

namespace TransitionSystem

variable {σ : Type u} {ε : Type v} (sys : TransitionSystem σ ε)

/-- Replay the events in order; `none` when one of them is not enabled. -/
def run : σ → List ε → Option σ
  | s, [] => some s
  | s, e :: rest =>
    match sys.step s e with
    | none => none
    | some t => run t rest

/-- The sum of a weight over the steps of the run from `s`. -/
def tally (weight : σ → ε → Nat) : σ → List ε → Nat
  | _, [] => 0
  | s, e :: rest =>
    match sys.step s e with
    | none => 0
    | some t => weight s e + tally weight t rest

/-- Every step of the run from `s` that is taken satisfies `p`. -/
def Along (p : σ → ε → σ → Prop) : σ → List ε → Prop
  | _, [] => True
  | s, e :: rest => ∀ t, sys.step s e = some t → p s e t ∧ Along p t rest

variable {sys}

@[simp] theorem run_nil (s : σ) : sys.run s [] = some s := rfl

theorem run_cons (s : σ) (e : ε) (rest : List ε) :
    sys.run s (e :: rest) = (sys.step s e).bind (sys.run · rest) := by
  rw [run]
  cases sys.step s e <;> rfl

theorem run_cons_some {s final : σ} {e : ε} {rest : List ε}
    (replay : sys.run s (e :: rest) = some final) :
    ∃ t, sys.step s e = some t ∧ sys.run t rest = some final := by
  rw [run_cons] at replay
  exact Option.bind_eq_some_iff.mp replay

theorem run_after {s t : σ} {e : ε} {rest : List ε} {final : Option σ}
    (taken : sys.step s e = some t) (later : sys.run t rest = final) :
    sys.run s (e :: rest) = final := by
  rw [run_cons, taken]
  exact later

theorem run_single {s t : σ} {e : ε} (taken : sys.step s e = some t) : sys.run s [e] = some t := by
  rw [run_cons, taken]
  rfl

theorem run_append (s : σ) (first second : List ε) :
    sys.run s (first ++ second) = (sys.run s first).bind (sys.run · second) := by
  induction first generalizing s with
  | nil => rfl
  | cons e rest ih =>
    rw [List.cons_append, run_cons, run_cons, Option.bind_assoc]
    exact congrArg _ (funext fun t => ih t)

theorem run_snoc {s t u : σ} {events : List ε} {e : ε} (replay : sys.run s events = some t)
    (taken : sys.step t e = some u) : sys.run s (events ++ [e]) = some u := by
  rw [run_append, replay]
  exact run_single taken

/-- A step that is taken, then the rest of the run. -/
theorem along_cons {p : σ → ε → σ → Prop} {s t : σ} {e : ε} {rest : List ε}
    (taken : sys.step s e = some t) :
    sys.Along p s (e :: rest) ↔ p s e t ∧ sys.Along p t rest := by
  rw [Along, taken]
  exact ⟨fun along => along t rfl, fun along t' same => Option.some.inj same ▸ along⟩

theorem along_imp {p q : σ → ε → σ → Prop} (implies : ∀ s e t, p s e t → q s e t) {s : σ}
    {events : List ε} (along : sys.Along p s events) : sys.Along q s events := by
  induction events generalizing s with
  | nil => trivial
  | cons e rest ih =>
    intro t taken
    obtain ⟨here, after⟩ := along t taken
    exact ⟨implies s e t here, ih after⟩

theorem along_and {p q : σ → ε → σ → Prop} {s : σ} {events : List ε}
    (first : sys.Along p s events) (second : sys.Along q s events) :
    sys.Along (fun s e t => p s e t ∧ q s e t) s events := by
  induction events generalizing s with
  | nil => trivial
  | cons e rest ih =>
    intro t taken
    obtain ⟨here, after⟩ := first t taken
    obtain ⟨too, later⟩ := second t taken
    exact ⟨⟨here, too⟩, ih after later⟩

/-- What holds along a run holds along its end. -/
theorem along_append {p : σ → ε → σ → Prop} {s t : σ} {first second : List ε}
    (replay : sys.run s first = some t) (along : sys.Along p s (first ++ second)) :
    sys.Along p t second := by
  induction first generalizing s with
  | nil =>
    cases replay
    exact along
  | cons e rest ih =>
    obtain ⟨u, taken, later⟩ := run_cons_some replay
    exact ih later (along u taken).2

theorem along_of_append {p : σ → ε → σ → Prop} {s : σ} {first second : List ε}
    (early : sys.Along p s first)
    (late : ∀ t, sys.run s first = some t → sys.Along p t second) :
    sys.Along p s (first ++ second) := by
  induction first generalizing s with
  | nil => exact late s rfl
  | cons e rest ih =>
    intro t taken
    obtain ⟨here, after⟩ := early t taken
    exact ⟨here, ih after fun u replay => late u (run_after taken replay)⟩

/-- An invariant that every step meeting the guard preserves holds at the end of
every run whose steps all meet the guard. -/
theorem run_invariant {guard : σ → ε → σ → Prop} (inv : σ → Prop)
    (preserved : ∀ s e t, inv s → guard s e t → sys.step s e = some t → inv t)
    {s final : σ} {events : List ε} (start : inv s) (guarded : sys.Along guard s events)
    (replay : sys.run s events = some final) : inv final := by
  induction events generalizing s with
  | nil =>
    cases replay
    exact start
  | cons e rest ih =>
    obtain ⟨t, taken, later⟩ := run_cons_some replay
    obtain ⟨here, after⟩ := guarded t taken
    exact ih (preserved s e t start here taken) after later

/-- The unguarded form: an invariant of every step is an invariant of every run. -/
theorem run_preserves (inv : σ → Prop)
    (preserved : ∀ s e t, inv s → sys.step s e = some t → inv t)
    {s final : σ} {events : List ε} (start : inv s)
    (replay : sys.run s events = some final) : inv final := by
  induction events generalizing s with
  | nil =>
    cases replay
    exact start
  | cons e rest ih =>
    obtain ⟨t, taken, later⟩ := run_cons_some replay
    exact ih (preserved s e t start taken) later

theorem tally_cons {weight : σ → ε → Nat} {s t : σ} {e : ε} {rest : List ε}
    (taken : sys.step s e = some t) :
    sys.tally weight s (e :: rest) = weight s e + sys.tally weight t rest := by
  rw [tally, taken]

/-- A counter that no step raises by more than the weight of the step. -/
theorem run_tally_le {weight : σ → ε → Nat} (counter : σ → Nat)
    (counts : ∀ s e t, sys.step s e = some t → counter t ≤ counter s + weight s e)
    {s final : σ} {events : List ε} (replay : sys.run s events = some final) :
    counter final ≤ counter s + sys.tally weight s events := by
  induction events generalizing s with
  | nil =>
    cases replay
    exact Nat.le_add_right _ _
  | cons e rest ih =>
    obtain ⟨t, taken, later⟩ := run_cons_some replay
    have here := counts s e t taken
    have behind := ih later
    rw [tally_cons taken]
    omega

/-- A counter that every step raises by the weight of the step counts the whole run. -/
theorem run_tally {weight : σ → ε → Nat} (counter : σ → Int)
    (counts : ∀ s e t, sys.step s e = some t → counter t = counter s + weight s e)
    {s final : σ} {events : List ε} (replay : sys.run s events = some final) :
    counter final = counter s + sys.tally weight s events := by
  induction events generalizing s with
  | nil =>
    cases replay
    exact (Int.add_zero _).symm
  | cons e rest ih =>
    obtain ⟨t, taken, later⟩ := run_cons_some replay
    rw [ih later, counts s e t taken, tally_cons taken, Int.add_assoc]
    exact congrArg (counter s + ·) (Int.natCast_add _ _).symm

/-- A sum is zero when every step has weight zero. -/
theorem tally_eq_zero_iff {weight : σ → ε → Nat} {s : σ} {events : List ε} :
    sys.tally weight s events = 0 ↔ sys.Along (fun t e _ => weight t e = 0) s events := by
  induction events generalizing s with
  | nil => exact iff_of_true rfl trivial
  | cons e rest ih =>
    cases taken : sys.step s e with
    | none => simp [tally, Along, taken]
    | some t => rw [along_cons taken, tally, taken, ← ih, Nat.add_eq_zero_iff]

/-- What an invariant gives at every step, it gives along every guarded run. -/
theorem along_of_invariant {guard q : σ → ε → σ → Prop} (inv : σ → Prop)
    (preserved : ∀ s e t, inv s → guard s e t → sys.step s e = some t → inv t)
    (ensures : ∀ s e t, inv s → guard s e t → sys.step s e = some t → q s e t)
    {s : σ} {events : List ε} (start : inv s) (guarded : sys.Along guard s events) :
    sys.Along q s events := by
  induction events generalizing s with
  | nil => trivial
  | cons e rest ih =>
    intro t taken
    obtain ⟨here, after⟩ := guarded t taken
    exact ⟨ensures s e t start here taken, ih (preserved s e t start here taken) after⟩

/-- What an invariant of every step gives holds along every run. -/
theorem along_of_preserved {q : σ → ε → σ → Prop} (inv : σ → Prop)
    (preserved : ∀ s e t, inv s → sys.step s e = some t → inv t)
    (ensures : ∀ s e t, inv s → sys.step s e = some t → q s e t) {s : σ} (start : inv s)
    (events : List ε) : sys.Along q s events := by
  induction events generalizing s with
  | nil => trivial
  | cons e rest ih =>
    intro t taken
    exact ⟨ensures s e t start taken, ih (preserved s e t start taken)⟩

/-- A condition on the events alone holds along every run of events that meet it. -/
theorem along_of_mem {p : ε → Prop} {s : σ} {events : List ε} (all : ∀ e ∈ events, p e) :
    sys.Along (fun _ e _ => p e) s events := by
  induction events generalizing s with
  | nil => trivial
  | cons e rest ih =>
    intro t _
    exact ⟨all e List.mem_cons_self,
      ih fun later member => all later (List.mem_cons_of_mem e member)⟩

/-- A property of every state after a step holds of the state a run ends in. -/
theorem along_last {p : σ → Prop} {s final : σ} {events : List ε} (nonempty : events ≠ [])
    (along : sys.Along (fun _ _ t => p t) s events) (replay : sys.run s events = some final) :
    p final := by
  induction events generalizing s with
  | nil => exact absurd rfl nonempty
  | cons e rest ih =>
    obtain ⟨t, taken, later⟩ := run_cons_some replay
    obtain ⟨here, after⟩ := along t taken
    cases rest with
    | nil =>
      cases later
      exact here
    | cons e' rest => exact ih (List.cons_ne_nil e' rest) after later

/-- Two step properties that agree on every step taken from a state satisfying an
invariant hold along the same runs, provided each keeps the invariant. -/
theorem along_iff {p q : σ → ε → σ → Prop} (inv : σ → Prop)
    (agree : ∀ s e t, inv s → sys.step s e = some t → (p s e t ↔ q s e t))
    (preserved : ∀ s e t, inv s → q s e t → sys.step s e = some t → inv t)
    {s : σ} {events : List ε} (start : inv s) :
    sys.Along p s events ↔ sys.Along q s events := by
  induction events generalizing s with
  | nil => exact Iff.rfl
  | cons e rest ih =>
    refine forall_congr' fun t => forall_congr' fun taken => ?_
    have here := agree s e t start taken
    constructor
    · rintro ⟨holds, after⟩
      have meets := here.mp holds
      exact ⟨meets, (ih (preserved s e t start meets taken)).mp after⟩
    · rintro ⟨meets, after⟩
      exact ⟨here.mpr meets, (ih (preserved s e t start meets taken)).mpr after⟩

end TransitionSystem

end PnC.Library
