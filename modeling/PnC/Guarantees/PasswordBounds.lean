import PnC.Source.PwdCalls

/-!
# The bounds of the password arrays

max_password_length and the stored testPwdLen are taken as they come. The accesses stay
inside charIndicies and testPassword exactly for the lengths that fit.
-/
namespace PnC.Guarantees.PasswordBounds

open PnC.Library PnC.Source PnC.Source.PwdNextUnit PnC.Source.PwdState

/-! ## The loop of setNext -/

/-- The states of the loop, the ones between the blocks of its body included. Until done is
set, the loop reads and writes its copy of charIndicies at pwdCharIndex. -/
inductive Scanning (u : PwdNextUnit) : Scan → Prop
  | start : Scanning u ⟨u.charIndicies, 0, false, .success⟩
  | unset {s : Scan} : Scanning u s → s.done = false → Scanning u (s.place u.getLowestIndex)
  | lowerAlpha {s : Scan} (x : Int) : Scanning u s → Scanning u (u.lowerAlphaBlock x s)
  | upperAlpha {s : Scan} (x : Int) : Scanning u s → Scanning u (u.upperAlphaBlock x s)
  | numeric {s : Scan} (x : Int) : Scanning u s → Scanning u (u.numericBlock x s)
  | nonAlpha {s : Scan} (x : Int) : Scanning u s → Scanning u (u.nonAlphaBlock x s)

/-- The body goes through them. -/
theorem Scanning.body {u : PwdNextUnit} {s : Scan} (scanning : Scanning u s)
    (running : s.done = false) : Scanning u (u.scanBody s) := by
  unfold scanBody
  apply Scanning.nonAlpha
  apply Scanning.numeric
  apply Scanning.upperAlpha
  apply Scanning.lowerAlpha
  split
  · exact scanning.unset running
  · exact scanning

def Inside (s : Scan) : Prop := s.done = false → s.pwdCharIndex < Source.maxPwdLen

theorem inside_classBlock {use : Bool} {lower upper lowest x : Int} {jump : Option Int} {s : Scan}
    (inside : Inside s) : Inside (classBlock use lower upper jump lowest x s) := by
  have carried : Inside (s.carry lowest) := by
    unfold Scan.carry
    dsimp only
    split
    next more => exact fun _ => more
    next => exact nofun
  unfold classBlock
  split
  · split
    · exact nofun
    · split
      · split
        · exact nofun
        · exact carried
      · exact inside
  · exact inside

theorem inside_of_scanning {u : PwdNextUnit} {s : Scan} (scanning : Scanning u s) : Inside s := by
  induction scanning with
  | start =>
    intro _
    exact Nat.zero_lt_succ 9
  | unset => exact nofun
  | lowerAlpha _ _ ih => exact inside_classBlock ih
  | upperAlpha _ _ ih => exact inside_classBlock ih
  | numeric _ _ ih => exact inside_classBlock ih
  | nonAlpha _ _ ih => exact inside_classBlock ih

/-! ## startup and the calls -/

/-- No access of startup, of the loop of setNext or of any call of next_unit is outside
its array. -/
structure InBounds (config : Option Json) (resume : Json) : Prop where
  starting : startup config resume ≠ .error (.fault .outOfBounds)
  scanning : ∀ u s, Scanning u s → s.done = false → s.pwdCharIndex < Source.maxPwdLen
  calling : ∀ s, startup config resume = .ok s →
    ∀ n, (createPwdPlugin.after^[n] s).nextUnit ≠ .stuck .outOfBounds

/-- The length that the resume state gives, or else the length of the starting password,
is at most ten. -/
def LengthFits (config : Option Json) (resume : Json) : Prop :=
  if resume.contains "testPwdLen" then
    ∀ length, resume.require "testPwdLen" Json.getInt = .ok length → length ≤ 10
  else ∀ c : PwdConfig, c.Starts config → c.startLen ≤ 10

section Calls
variable {s : PwdState}

/-- A generator that gives no password longer than the arrays. -/
def Safe (u : PwdNextUnit) : Prop := u.testPwdLen ≤ Source.maxPwdLen ∨ ¬ u.CanStep

theorem not_canStep_of_spent {u : PwdNextUnit} (spent : u.useNone = true ∨ u.permuteStatus = true) :
    ¬ u.CanStep := by
  rintro ⟨enabled, running, -⟩
  rcases spent with disabled | done
  · rw [disabled] at enabled
    cases enabled
  · rw [done] at running
    cases running

/-- One call from a safe generator. -/
theorem safe_call (safe : Safe s.generator) :
    s.nextUnit ≠ .stuck .outOfBounds ∧ Safe (createPwdPlugin.after s).generator := by
  rcases s.generator.setNext_cases with canStep | hangs | ⟨status, done, refused, call, spent⟩
  · obtain ⟨v, call, low, -, high⟩ := setNext_of_canStep canStep
    have bounded : v.testPwdLen ≤ Source.maxPwdLen := by
      rcases safe with short | stuck
      · rcases high with kept | raised
        · exact kept.trans short
        · exact raised
      · exact absurd canStep stuck
    obtain ⟨j, job⟩ := job_within (by omega) bounded (toInt32 (s.seq + 1))
    have unit : s.nextUnit =
        .unit { s with generator := v, seq := toInt32 (s.seq + 1) } j := by
      simp only [nextUnit, call, if_true, job]
    rw [after_of_unit unit, unit]
    refine ⟨?_, Or.inl bounded⟩
    intro outside
    cases outside
  · have call := setNext_of_hangs hangs
    have stuck : s.nextUnit = .stuck .diverges := by
      simp only [nextUnit, call]
    have stays : createPwdPlugin.after s = s := by
      unfold TestPlugin.after createPwdPlugin
      dsimp only
      rw [stuck]
    rw [stays, stuck]
    refine ⟨?_, safe⟩
    intro outside
    cases outside
  · have exhausted := nextUnit_of_refusal refused call
    rw [after_of_exhausted exhausted, exhausted]
    refine ⟨?_, Or.inr (not_canStep_of_spent spent)⟩
    intro outside
    cases outside

/-- From a safe state on no call leaves the arrays. -/
theorem calls_in_bounds_iff :
    (∀ n, (createPwdPlugin.after^[n] s).nextUnit ≠ .stuck .outOfBounds) ↔ Safe s.generator := by
  constructor
  · intro bounded
    by_contra notSafe
    obtain ⟨long, canStep⟩ := not_or.mp notSafe
    obtain ⟨v, call, -, high, -⟩ := setNext_of_canStep (not_not.mp canStep)
    refine bounded 0 ?_
    simp only [Function.iterate_zero, id, nextUnit, call, if_true,
      job_outside (Or.inr (show (Source.maxPwdLen : Int) < v.testPwdLen by omega))]
  · intro safe n
    have throughout : Safe (createPwdPlugin.after^[n] s).generator := by
      induction n with
      | zero => exact safe
      | succ n ih =>
        rw [Function.iterate_succ_apply']
        exact (safe_call ih).2
    exact (safe_call throughout).1

end Calls

section Startup
variable {config : Option Json} {resume : Json}

/-- startup writes in bounds exactly if the starting password does. -/
theorem startup_in_bounds_iff : startup config resume ≠ .error (.fault .outOfBounds) ↔
    ∀ c : PwdConfig, c.Starts config → c.StartFits := by
  rw [Ne, startup_fault_cases]
  constructor
  · intro bounded c starts
    by_contra outside
    exact bounded ⟨c, starts, Or.inl ⟨rfl, outside⟩⟩
  · rintro fits ⟨c, starts, ⟨-, outside⟩ | ⟨other, -⟩⟩
    · exact outside (fits c starts)
    · cases other

/-- The length that the configuration alone leaves. -/
theorem configured_length {s : PwdState} (call : configured config = .ok s) :
    s.generator.testPwdLen ≤ 10 ↔ ∀ c : PwdConfig, c.Starts config → c.startLen ≤ 10 := by
  have most : (Source.maxPwdLen : Int) = 10 := rfl
  rcases configured_cases config with ⟨t, configured, blank, absent⟩ | ⟨c, starts, configured⟩
  · cases call.symm.trans configured
    rw [blank.testPwdLen]
    constructor
    · intro _ c starts
      exact absurd starts (absent c)
    · intro _
      decide
  · have here : (∀ d : PwdConfig, d.Starts config → d.startLen ≤ 10) ↔ c.startLen ≤ 10 := by
      constructor
      · intro all
        exact all c starts
      · intro short d again
        cases starts.unique again
        exact short
    rw [here]
    rw [configured] at call
    by_cases fits : c.StartFits
    · rw [PwdConfig.startFrom_inside fits] at call
      have length : c.started.testPwdLen = c.startLen := rfl
      rcases c.started.setNext_cases with canStep | hangs | ⟨status, done, -, advanced, -⟩
      · obtain ⟨v, advanced, low, longer, shorter⟩ := setNext_of_canStep canStep
        rw [advanced] at call
        cases call
        change v.testPwdLen ≤ 10 ↔ _
        omega
      · rw [setNext_of_hangs hangs] at call
        cases call
      · rw [advanced] at call
        cases call
        change c.started.testPwdLen ≤ 10 ↔ _
        rw [length]
    · rw [PwdConfig.startFrom_outside fits] at call
      cases call

theorem startup_length_iff {s : PwdState} (started : startup config resume = .ok s) :
    s.generator.testPwdLen ≤ 10 ↔ LengthFits config resume := by
  unfold LengthFits
  obtain ⟨s₀, call, ⟨empty, rfl⟩ | ⟨-, w, testPwdLen, permuteStatus, seq, length, rfl⟩⟩ :=
    startup_ok started
  · have absent : resume.contains "testPwdLen" = false := by
      cases resume with
      | object fields =>
        cases fields with
        | nil => rfl
        | cons => cases empty
      | _ => rfl
    rw [absent, configured_length call]
    rfl
  · change testPwdLen ≤ 10 ↔ _
    unfold resumeField at length
    split at length
    next present =>
      rw [if_pos present]
      cases read : resume.require "testPwdLen" Json.getInt with
      | error what =>
        rw [read] at length
        cases length
      | ok stored =>
        rw [read] at length
        cases length
        constructor
        · intro short _ same
          cases same
          exact short
        · intro all
          exact all _ rfl
    next absent =>
      cases length
      rw [if_neg absent, configured_length call]

end Startup

/-- For every configuration and resume state: every access is inside its array exactly if
the starting password is written inside charIndicies, and the length handed over is at
most ten or the generator that the first call finds has no password to give. -/
theorem in_bounds_iff (config : Option Json) (resume : Json) :
    InBounds config resume ↔
      (∀ c : PwdConfig, c.Starts config → c.StartFits) ∧
        ∀ s, startup config resume = .ok s → LengthFits config resume ∨ ¬ s.generator.CanStep := by
  have safe_iff : ∀ s, startup config resume = .ok s →
      (Safe s.generator ↔ LengthFits config resume ∨ ¬ s.generator.CanStep) := by
    intro s started
    rw [← startup_length_iff started]
    rfl
  constructor
  · intro bounded
    refine ⟨startup_in_bounds_iff.mp bounded.starting, fun s started => ?_⟩
    exact (safe_iff s started).mp (calls_in_bounds_iff.mp (bounded.calling s started))
  · rintro ⟨fits, lengths⟩
    constructor
    case starting => exact startup_in_bounds_iff.mpr fits
    case scanning => exact fun _ _ scanning => inside_of_scanning scanning
    case calling =>
      intro s started
      exact calls_in_bounds_iff.mpr ((safe_iff s started).mpr (lengths s started))

def lowerJson : Json := .object [("use_lower_alpha", .boolean true)]

def longResume : Json := .object [("testPwdLen", .numberInteger 11)]

/-- A stored testPwdLen of 11 makes the first call read behind charIndicies. -/
theorem stored_length_eleven_out_of_bounds :
    ∃ s, startup (some lowerJson) longResume = .ok s ∧
      s.nextUnit = .stuck .outOfBounds ∧ ¬ InBounds (some lowerJson) longResume := by
  refine ⟨_, rfl, rfl, fun bounded => ?_⟩
  exact bounded.calling _ rfl 0 rfl

end PnC.Guarantees.PasswordBounds
