import PnC.Guarantees.PasswordEnumeration
import PnC.Source.PwdCalls
import PnC.Source.PwdResume

/-!
# The termination of the password generator

The loop of setNext ends at a position that is unset or shows an index of an enabled class.
startup takes the indices of the starting password and of the resume state without a look
at the classes, and the generator comes to every position sooner or later.
-/
namespace PnC.Guarantees.GeneratorTermination

open PnC.Library PnC.Source PnC.Source.PwdNextUnit PnC.Source.PwdState
open PnC.Guarantees.PasswordEnumeration (afterCalls afterCalls_succ)

/-- startup returns, and so does every later call of next_unit, which touches the generator
by a call of setNext alone. -/
structure Terminates (config : Option Json) (resume : Json) : Prop where
  starting : startup config resume ≠ .error (.fault .diverges)
  calling : ∀ s, startup config resume = .ok s → ∀ n, ∃ u, afterCalls s.generator n = .ok u ∧
    ∀ seq, ({ s with generator := u, seq := seq } : PwdState).nextUnit ≠ .stuck .diverges

/-- Every position can be counted on, unless the generator refuses to count anyway. -/
def Walkable (u : PwdNextUnit) : Prop :=
  u.useNone = true ∨ u.permuteStatus = true ∨
    ∀ j, (bound : j < Source.maxPwdLen) → u.Good u.charIndicies[j]

/-! ## Walkable generators -/

theorem not_hangs {u : PwdNextUnit} (walkable : Walkable u) : ¬ u.Hangs := by
  rintro ⟨enabled, running, r, inside, -, foreign⟩
  rcases walkable with disabled | finished | good
  · rw [enabled] at disabled
    cases disabled
  · rw [running] at finished
    cases finished
  · exact foreign (good r inside)

/-- A call of setNext leaves a walkable generator so. -/
theorem walkable_call {u : PwdNextUnit} (walkable : Walkable u) :
    ∃ status v, u.setNext = .ok (status, v) ∧ Walkable v := by
  rcases u.setNext_cases with ⟨enabled, running, r, inside, lasts, notLast, good⟩ | hangs |
    ⟨status, done, -, call, spent⟩
  · obtain ⟨y, next⟩ := next_of_good good notLast
    obtain ⟨w, call, written⟩ := setNext_next enabled running inside lasts next
    refine ⟨_, _, call, ?_⟩
    rcases walkable with disabled | finished | all
    · exact Or.inl disabled
    · exact Or.inr (Or.inl finished)
    · refine Or.inr (Or.inr fun j bound => ?_)
      change u.Good w[j]
      rw [written j bound]
      split_ifs
      · exact u.good_lowest
      · exact next_good next
      · exact all j bound
  · exact absurd hangs (not_hangs walkable)
  · refine ⟨status, _, call, ?_⟩
    rcases spent with disabled | finished
    · exact Or.inl disabled
    · exact Or.inr (Or.inl finished)

theorem walkable_calls {u : PwdNextUnit} (walkable : Walkable u) (n : Nat) :
    ∃ v, afterCalls u n = .ok v ∧ Walkable v := by
  induction n with
  | zero => exact ⟨u, rfl, walkable⟩
  | succ n ih =>
    obtain ⟨v, before, here⟩ := ih
    obtain ⟨status, w, call, next⟩ := walkable_call here
    exact ⟨w, afterCalls_succ before call, next⟩

/-! ## Generators with a foreign position -/

theorem afterCalls_add {u v w : PwdNextUnit} {m n : Nat} (first : afterCalls u m = .ok v)
    (later : afterCalls v n = .ok w) : afterCalls u (m + n) = .ok w := by
  induction n generalizing w with
  | zero =>
    cases later
    exact first
  | succ n ih =>
    rw [← Nat.add_assoc]
    cases before : afterCalls v n with
    | error fault =>
      rw [afterCalls, before] at later
      cases later
    | ok x =>
      rw [afterCalls, before] at later
      rw [afterCalls, ih before]
      exact later

/-- A generator that still counts, in front of position `q`. -/
structure Below (q : Nat) (u : PwdNextUnit) : Prop where
  consistent : u.Consistent
  enabled : u.useNone = false
  running : u.permuteStatus = false
  good : ∀ j, (bound : j < Source.maxPwdLen) → j < q → u.Good u.charIndicies[j]

/-- What calls that end below position `q` leave alone. -/
structure Keeps (q : Nat) (u v : PwdNextUnit) : Prop where
  same : v = { u with charIndicies := v.charIndicies, testPwdLen := v.testPwdLen }
  above : ∀ j, (bound : j < Source.maxPwdLen) → q ≤ j → v.charIndicies[j] = u.charIndicies[j]

theorem Keeps.trans {q : Nat} {u v w : PwdNextUnit} (first : Keeps q u v) (later : Keeps q v w) :
    Keeps q u w := by
  constructor
  case same =>
    rw [later.same, first.same]
  case above =>
    intro j bound outside
    rw [later.above j bound outside, first.above j bound outside]

theorem Keeps.below {q : Nat} {u v : PwdNextUnit} (keeps : Keeps q u v) (below : Below q u)
    (good : ∀ j, (bound : j < Source.maxPwdLen) → j < q → u.Good v.charIndicies[j]) :
    Below q v := by
  have same := keeps.same
  constructor
  case consistent =>
    rw [same]
    exact below.consistent
  case enabled =>
    rw [same]
    exact below.enabled
  case running =>
    rw [same]
    exact below.running
  case good =>
    intro j bound inside
    have here := good j bound inside
    rw [same]
    exact here

/-- When the positions below `q` show the last index the next call moves `q` on. -/
theorem moves_on {q : Nat} (inside : q < Source.maxPwdLen) {u : PwdNextUnit}
    (below : Below (q + 1) u) (lasts : u.LastBelow q) (notLast : ¬ u.Last u.charIndicies[q]) :
    ∃ v, u.setNext = .ok (.success, v) ∧ Keeps (q + 1) u v ∧ Below (q + 1) v ∧
      u.charIndicies[q] < v.charIndicies[q] ∧ u.charIndicies[q] < rangeNaUpper := by
  have good := below.good q inside (Nat.lt_succ_self q)
  obtain ⟨y, next⟩ := next_of_good good notLast
  obtain ⟨w, call, written⟩ := setNext_next below.enabled below.running inside lasts next
  have higher : u.charIndicies[q] < y ∧ y ≤ rangeNaUpper := by
    rcases next with ⟨unset, rfl⟩ | follows
    · have member := u.good_lowest.resolve_left (below.consistent.lowest below.enabled)
      have range := indexAlphabet_bounds _ _ _ _ _ member
      omega
    · obtain ⟨above, member⟩ := follows_mem follows
      exact ⟨above, (indexAlphabet_bounds _ _ _ _ _ member).2⟩
  have here := written q inside
  rw [if_neg (Nat.lt_irrefl q), if_pos rfl] at here
  have keeps : Keeps (q + 1) u { u with
      charIndicies := w
      testPwdLen := if (q : Int) + 1 > u.testPwdLen then q + 1 else u.testPwdLen } := by
    refine ⟨rfl, fun j bound outside => ?_⟩
    change w[j] = _
    rw [written j bound, if_neg (by omega), if_neg (by omega)]
  refine ⟨_, call, keeps, keeps.below below fun j bound less => ?_, ?_, by omega⟩
  · change u.Good w[j]
    rw [written j bound]
    split_ifs
    · exact u.good_lowest
    · exact next_good next
    · exact below.good j bound less
  · change _ < w[q]
    omega

/-- Sooner or later every position below `q` shows the last index: the positions below the
highest of them get there first, and each time they do it moves on. -/
theorem reaches_lasts {q : Nat} (bound : q ≤ Source.maxPwdLen) {u : PwdNextUnit}
    (below : Below q u) : ∃ n v, afterCalls u n = .ok v ∧ v.LastBelow q ∧ Keeps q u v := by
  induction q generalizing u with
  | zero =>
    exact ⟨0, u, rfl, fun j _ less => absurd less (Nat.not_lt_zero j), rfl, fun _ _ _ => rfl⟩
  | succ q ih =>
    generalize left : (rangeNaUpper - u.charIndicies[q]).toNat = m
    induction m using Nat.strong_induction_on generalizing u with
    | _ m climb =>
      have lower : Below q u := ⟨below.consistent, below.enabled, below.running,
        fun j inside less => below.good j inside (by omega)⟩
      obtain ⟨n, v, calls, lasts, keeps⟩ := ih (Nat.le_of_succ_le bound) lower
      have wide : Keeps (q + 1) u v :=
        ⟨keeps.same, fun j inside outside => keeps.above j inside (by omega)⟩
      have at_q := keeps.above q bound (Nat.le_refl q)
      have goodBelow : Below (q + 1) v := by
        refine wide.below below fun j inside less => ?_
        by_cases here : j = q
        · subst here
          rw [at_q]
          exact below.good j inside less
        · have member := last_mem (lasts j inside (by omega))
          rw [keeps.same] at member
          exact Or.inr member
      by_cases last : v.Last v.charIndicies[q]
      · refine ⟨n, v, calls, fun j inside less => ?_, wide⟩
        rcases Nat.lt_succ_iff_lt_or_eq.mp less with smaller | rfl
        · exact lasts j inside smaller
        · exact last
      · obtain ⟨w, call, kept, next, higher, room⟩ := moves_on bound goodBelow lasts last
        obtain ⟨k, x, later, done, rest⟩ := climb _ (by omega) next rfl
        exact ⟨n + 1 + k, x, afterCalls_add (afterCalls_succ calls call) later, done,
          (wide.trans kept).trans rest⟩

/-- A generator that is not walkable gets to a call that does not return. -/
theorem hangs_of_not_walkable {u : PwdNextUnit} (consistent : u.Consistent)
    (notWalkable : ¬ Walkable u) : ∃ n, afterCalls u n = .error .diverges := by
  classical
  obtain ⟨enabled, counting⟩ := not_or.mp notWalkable
  obtain ⟨running, foreign⟩ := not_or.mp counting
  have enabled := Bool.eq_false_of_not_eq_true enabled
  have running := Bool.eq_false_of_not_eq_true running
  have found : ∃ j, ∃ inside : j < Source.maxPwdLen, ¬ u.Good u.charIndicies[j] := by
    simpa only [not_forall] using foreign
  -- the lowest of the foreign positions is where the generator gets stuck
  obtain ⟨inside, stuck⟩ := Nat.find_spec found
  have below : Below (Nat.find found) u := by
    refine ⟨consistent, enabled, running, fun j bound less => ?_⟩
    by_contra bad
    exact Nat.find_min found less ⟨bound, bad⟩
  obtain ⟨n, v, calls, lasts, keeps⟩ := reaches_lasts (Nat.le_of_lt inside) below
  have at_q := keeps.above _ inside (Nat.le_refl _)
  have hangs : v.Hangs := by
    refine ⟨?_, ?_, _, inside, lasts, ?_⟩
    · rw [keeps.same]
      exact enabled
    · rw [keeps.same]
      exact running
    · rw [at_q, keeps.same]
      exact stuck
  refine ⟨n + 1, ?_⟩
  rw [afterCalls, calls]
  dsimp only
  rw [setNext_of_hangs hangs]
  rfl

/-! ## startup and the calls -/

section Startup
variable {config : Option Json} {resume : Json}

theorem startup_returns_iff : startup config resume ≠ .error (.fault .diverges) ↔
    ∀ c : PwdConfig, c.Starts config → c.StartFits → ¬ c.started.Hangs := by
  rw [Ne, startup_fault_cases]
  constructor
  · intro returns c starts fits hangs
    exact returns ⟨c, starts, Or.inr ⟨rfl, fits, hangs⟩⟩
  · rintro returns ⟨c, starts, ⟨other, -⟩ | ⟨-, fits, hangs⟩⟩
    · cases other
    · exact returns c starts fits hangs

theorem consistent_startup {s : PwdState} (started : startup config resume = .ok s) :
    s.generator.Consistent := by
  obtain ⟨s₀, call, ⟨-, rfl⟩ | ⟨-, w, testPwdLen, permuteStatus, seq, -, rfl⟩⟩ := startup_ok started
  · exact (stored_configured call).1.consistent
  · exact (stored_configured call).1.consistent

end Startup

/-- For every configuration and resume state: everything returns exactly if startup's own
call of setNext does not get to a foreign position of the starting password, and the
generator that the first call finds is walkable. -/
theorem terminates_iff (config : Option Json) (resume : Json) :
    Terminates config resume ↔
      (∀ c : PwdConfig, c.Starts config → c.StartFits → ¬ c.started.Hangs) ∧
        ∀ s, startup config resume = .ok s → Walkable s.generator := by
  constructor
  · intro terminates
    refine ⟨startup_returns_iff.mp terminates.starting, fun s started => ?_⟩
    by_contra notWalkable
    obtain ⟨n, stuck⟩ := hangs_of_not_walkable (consistent_startup started) notWalkable
    obtain ⟨u, calls, -⟩ := terminates.calling s started n
    rw [stuck] at calls
    cases calls
  · rintro ⟨returns, walkable⟩
    constructor
    case starting => exact startup_returns_iff.mpr returns
    case calling =>
      intro s started n
      obtain ⟨u, calls, here⟩ := walkable_calls (walkable s started) n
      obtain ⟨status, v, call, -⟩ := walkable_call here
      exact ⟨u, calls, fun seq => nextUnit_returns call⟩

/-- With no resume state it is the starting password that decides: every character of it
that startup knows has to be of an enabled class, if any class is. -/
theorem fresh_terminates_iff (config : Option Json) :
    Terminates config .null ↔
      ∀ c : PwdConfig, c.Starts config → c.StartFits → Walkable c.started := by
  constructor
  · intro terminates c starts fits
    by_contra notWalkable
    have returns := startup_returns_iff.mp terminates.starting c starts fits
    obtain ⟨status, v, advanced⟩ := setNext_returns returns
    have started : startup config .null = .ok { c.state with generator := v } := by
      rw [startup_null, configured_of_starts starts, PwdConfig.startFrom_inside fits, advanced]
      rfl
    obtain ⟨n, stuck⟩ := hangs_of_not_walkable (u := c.started) rfl notWalkable
    cases n with
    | zero => cases stuck
    | succ n =>
      -- startup has made the first of these calls
      obtain ⟨w, calls, -⟩ := terminates.calling _ started n
      have first : afterCalls c.started 1 = .ok v := afterCalls_succ rfl advanced
      have all := afterCalls_add first calls
      rw [Nat.add_comm, stuck] at all
      cases all
  · intro walkable
    rw [terminates_iff]
    refine ⟨fun c starts fits => not_hangs (walkable c starts fits), fun s started => ?_⟩
    have configured : configured config = .ok s := by
      rw [startup_null] at started
      cases configured : configured config with
      | error fault =>
        rw [configured] at started
        cases started
      | ok t =>
        rw [configured] at started
        cases started
        rfl
    rcases configured_cases config with ⟨t, call, blank, -⟩ | ⟨c, starts, call⟩
    · cases configured.symm.trans call
      refine Or.inr (Or.inr fun j bound => ?_)
      rw [blank.unset j bound]
      exact Or.inl rfl
    · rw [configured] at call
      by_cases fits : c.StartFits
      · obtain ⟨status, v, advanced, next⟩ := walkable_call (walkable c starts fits)
        rw [PwdConfig.startFrom_inside fits, advanced] at call
        cases call
        exact next
      · rw [PwdConfig.startFrom_outside fits] at call
        cases call

def lowerJson : Json := .object [("use_lower_alpha", .boolean true)]

/-- Ten stored indices, the first of them that of the letter A. -/
def upperResume : Json :=
  .object [("charIndicies", .array ([26, -1, -1, -1, -1, -1, -1, -1, -1, -1].map .numberInteger))]

/-- With lower case letters alone the first call does not get past it. -/
theorem stored_upper_diverges :
    ∃ s, startup (some lowerJson) upperResume = .ok s ∧ s.nextUnit = .stuck .diverges ∧
      ¬ Terminates (some lowerJson) upperResume := by
  refine ⟨_, rfl, rfl, fun terminates => ?_⟩
  obtain ⟨u, calls, returns⟩ := terminates.calling _ rfl 0
  cases calls
  exact returns 0 rfl

end PnC.Guarantees.GeneratorTermination
