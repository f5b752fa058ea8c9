import PnC.Source.PwdScan
import PnC.Source.PwdStart

/-!
# One call, whatever the state

setNext gives a password, gives up or does not return, and the job of the password is
read inside the arrays as long as its length is at most ten.
-/
namespace PnC.Source

open PnC.Library PwdNextUnit

namespace PwdNextUnit

/-- The scan comes to a position that it can count on. -/
def CanStep (u : PwdNextUnit) : Prop :=
  u.useNone = false ∧ u.permuteStatus = false ∧ ∃ r, ∃ inside : r < maxPwdLen,
    u.LastBelow r ∧ ¬ u.Last u.charIndicies[r] ∧ u.Good u.charIndicies[r]

/-- The scan comes to a position that no class recognises. -/
def Hangs (u : PwdNextUnit) : Prop :=
  u.useNone = false ∧ u.permuteStatus = false ∧ ∃ r, ∃ inside : r < maxPwdLen,
    u.LastBelow r ∧ ¬ u.Good u.charIndicies[r]

section Outcomes
variable {u : PwdNextUnit}

/-- A call that gives a password may raise the length, but not beyond ten. -/
theorem setNext_of_canStep (canStep : u.CanStep) : ∃ v, u.setNext = .ok (.success, v) ∧
    1 ≤ v.testPwdLen ∧ u.testPwdLen ≤ v.testPwdLen ∧
    (v.testPwdLen ≤ u.testPwdLen ∨ v.testPwdLen ≤ maxPwdLen) := by
  obtain ⟨enabled, running, r, inside, lasts, notLast, good⟩ := canStep
  obtain ⟨y, next⟩ := next_of_good good notLast
  obtain ⟨w, call, -⟩ := setNext_next enabled running inside lasts next
  have most : (maxPwdLen : Int) = 10 := rfl
  refine ⟨_, call, ?_⟩
  dsimp only
  split <;> omega

theorem setNext_of_hangs (hangs : u.Hangs) : u.setNext = .error .diverges := by
  obtain ⟨enabled, running, r, inside, lasts, foreign⟩ := hangs
  exact setNext_foreign enabled running inside lasts foreign

/-- One of the three ends. A generator that has given up gives up again. -/
theorem setNext_cases (u : PwdNextUnit) :
    u.CanStep ∨ u.Hangs ∨ ∃ status done, status ≠ .success ∧
      u.setNext = .ok (status, { u with permuteStatus := done }) ∧
      (u.useNone = true ∨ done = true) := by
  by_cases disabled : u.useNone = true
  · refine Or.inr (Or.inr ⟨.noOption, u.permuteStatus, by decide, ?_, Or.inl disabled⟩)
    rw [setNext, if_pos disabled]
  have enabled := Bool.eq_false_of_not_eq_true disabled
  by_cases finished : u.permuteStatus = true
  · refine Or.inr (Or.inr ⟨.done, u.permuteStatus, by decide, ?_, Or.inr finished⟩)
    exact setNext_after_done enabled finished
  have running := Bool.eq_false_of_not_eq_true finished
  rcases u.stops_or_lasts with ⟨r, inside, lasts, notLast⟩ | lasts
  · by_cases good : u.Good u.charIndicies[r]
    · exact Or.inl ⟨enabled, running, r, inside, lasts, notLast, good⟩
    · exact Or.inr (Or.inl ⟨enabled, running, r, inside, lasts, good⟩)
  · exact Or.inr (Or.inr ⟨.done, true, by decide, setNext_lasts enabled running lasts,
      Or.inr rfl⟩)

/-- A call that does not hang returns. -/
theorem setNext_returns (runs : ¬ u.Hangs) : ∃ status v, u.setNext = .ok (status, v) := by
  rcases u.setNext_cases with canStep | hangs | ⟨status, done, -, call, -⟩
  · obtain ⟨v, call, -⟩ := setNext_of_canStep canStep
    exact ⟨_, v, call⟩
  · exact absurd hangs runs
  · exact ⟨status, _, call⟩

end Outcomes

/-! ## The job -/

section Job
variable {u : PwdNextUnit}

theorem plainLoop_within (u : PwdNextUnit) {count : Nat} (bound : count ≤ maxPwdLen)
    (written : List Char) : ∃ chars, u.plainLoop count written = .ok chars := by
  induction count generalizing written with
  | zero => exact ⟨some written, rfl⟩
  | succ count ih =>
    rw [plainLoop, Vector.getElem?_eq_getElem bound]
    dsimp only
    cases plainChar u.charIndicies[count] with
    | none => exact ⟨none, rfl⟩
    | some c => exact ih (Nat.le_of_succ_le bound) _

/-- The terminator too is written inside testPassword. -/
theorem getPlainPassword_within (low : 0 ≤ u.testPwdLen) (high : u.testPwdLen ≤ maxPwdLen) :
    ∃ password, u.getPlainPassword = .ok password := by
  obtain ⟨chars, loop⟩ := u.plainLoop_within (show u.testPwdLen.toNat ≤ maxPwdLen by omega) []
  rw [getPlainPassword, loop]
  cases chars with
  | none => exact ⟨none, rfl⟩
  | some written =>
    dsimp only
    rw [if_neg (by omega)]
    exact ⟨_, rfl⟩

/-- A longer password is read from behind charIndicies, and the terminator of a negative one
is written in front of testPassword. -/
theorem getPlainPassword_outside
    (outside : u.testPwdLen < 0 ∨ (maxPwdLen : Int) < u.testPwdLen) :
    u.getPlainPassword = .error .outOfBounds := by
  rcases outside with negative | beyond
  · rw [getPlainPassword, Int.toNat_of_nonpos (Int.le_of_lt negative), plainLoop]
    dsimp only
    rw [if_pos negative]
  · obtain ⟨count, length⟩ : ∃ count, u.testPwdLen.toNat = count + 1 :=
      ⟨_, (Nat.succ_pred (by omega)).symm⟩
    have absent : u.charIndicies[count]? = none := Vector.getElem?_eq_none (by omega)
    rw [getPlainPassword, length, plainLoop, absent]

end Job

end PwdNextUnit

namespace PwdState

section Job
variable {u : PwdNextUnit}

theorem job_within (low : 0 ≤ u.testPwdLen) (high : u.testPwdLen ≤ Source.maxPwdLen) (seq : Int) :
    ∃ j, job u seq = .ok j := by
  obtain ⟨password, plain⟩ := getPlainPassword_within low high
  obtain ⟨indicies, spelled⟩ := u.indiciesLoop_ok u.testPwdLen.toNat (by omega)
    (toString u.testPwdLen)
  obtain ⟨text, named, -⟩ := u.textLoop_text u.testPwdLen.toNat (by omega)
    (toString u.testPwdLen ++ " chars ")
  refine ⟨.object [("task", .string "PWD"), ("password", .string (password.getD "")),
    ("indicies", .string indicies), ("text", .string text), ("seq", .numberInteger seq)], ?_⟩
  simp only [job, plain, getPwdAsIndicies, spelled, getPwdAsText, named, bind, Except.bind, pure,
    Except.pure]

theorem job_outside (outside : u.testPwdLen < 0 ∨ (Source.maxPwdLen : Int) < u.testPwdLen)
    (seq : Int) : job u seq = .error .outOfBounds := by
  rw [job, getPlainPassword_outside outside]
  rfl

/-- next_unit returns whenever its call of setNext does. -/
theorem nextUnit_returns {s : PwdState} {status : PermuteStatus}
    (call : s.generator.setNext = .ok (status, u)) : s.nextUnit ≠ .stuck .diverges := by
  simp only [nextUnit, call]
  by_cases success : status = .success
  · rw [if_pos success]
    by_cases within : 0 ≤ u.testPwdLen ∧ u.testPwdLen ≤ Source.maxPwdLen
    · obtain ⟨j, made⟩ := job_within within.1 within.2 (toInt32 (s.seq + 1))
      rw [made]
      intro stuck
      cases stuck
    · rw [job_outside (by omega)]
      intro stuck
      cases stuck
  · rw [if_neg success]
    intro stuck
    cases stuck

end Job

/-! ## startup -/

/-- startup goes wrong on a starting password that does not fit, or that its own call of
setNext does not get past. -/
theorem startup_fault_cases {config : Option Json} {resume : Json} {fault : Fault} :
    startup config resume = .error (.fault fault) ↔
      ∃ c : PwdConfig, c.Starts config ∧
        ((fault = .outOfBounds ∧ ¬ c.StartFits) ∨
          (fault = .diverges ∧ c.StartFits ∧ c.started.Hangs)) := by
  rw [startup_fault_iff]
  rcases configured_cases config with ⟨s, call, -, absent⟩ | ⟨c, starts, call⟩
  · rw [call]
    constructor
    · intro failed
      cases failed
    · rintro ⟨c, starts, -⟩
      exact absurd starts (absent c)
  · have here : c.state.startFrom c.startingPassword.toUTF8.toList = .error fault ↔
        (fault = .outOfBounds ∧ ¬ c.StartFits) ∨
          (fault = .diverges ∧ c.StartFits ∧ c.started.Hangs) := by
      by_cases fits : c.StartFits
      · rw [PwdConfig.startFrom_inside fits]
        by_cases hangs : c.started.Hangs
        · rw [setNext_of_hangs hangs]
          simp [Except.map, fits, hangs, eq_comm]
        · obtain ⟨status, v, advanced⟩ := setNext_returns hangs
          rw [advanced]
          simp [Except.map, fits, hangs]
      · rw [PwdConfig.startFrom_outside fits]
        simp [fits, eq_comm]
    rw [call, here]
    constructor
    · intro wrong
      exact ⟨c, starts, wrong⟩
    · rintro ⟨d, again, wrong⟩
      cases starts.unique again
      exact wrong

end PwdState

end PnC.Source
