import PnC.Library.ExceptBind
import PnC.Source.PwdConfig

/-!
# startup with a starting password

What the two loops over the starting password write, for every password and every
maximum length, and when they write outside charIndicies.
-/
namespace PnC.Source

open PnC.Library PwdNextUnit

namespace PwdNextUnit

/-- A generator with no position set. -/
structure Blank (u : PwdNextUnit) : Prop where
  unset : ∀ j, (bound : j < maxPwdLen) → u.charIndicies[j] = -1
  testPwdLen : u.testPwdLen = 0
  running : u.permuteStatus = false

theorem blank_new : Blank .new :=
  ⟨fun j bound => by simp [new], rfl, rfl⟩

theorem setCharIndicies_inside (u : PwdNextUnit) {i : Nat} (inside : i < maxPwdLen) (value : Int) :
    u.setCharIndicies i value =
      .ok { u with charIndicies := u.charIndicies.setIfInBounds i value } := by
  rw [setCharIndicies, if_pos ⟨Int.natCast_nonneg i, Int.ofNat_lt.mpr inside⟩, Int.toNat_natCast]

theorem setCharIndicies_outside (u : PwdNextUnit) {i : Int}
    (outside : i < 0 ∨ (maxPwdLen : Int) ≤ i) (value : Int) :
    u.setCharIndicies i value = .error .outOfBounds := by
  rw [setCharIndicies, if_neg (by omega)]

end PwdNextUnit

namespace PwdState

/-! ## The loops -/

/-- startup knows every character or gives it -1. -/
theorem startIndex_low (c : UInt8) : -1 ≤ startIndex c := by
  unfold startIndex
  split_ifs
  · omega
  · omega
  · omega
  · split <;> omega

/-- The loop over the starting password writes the characters it knows. -/
theorem setStart_inside {i : Nat} {startingPwd : List UInt8}
    (fits : ∀ k c, startingPwd[k]? = some c → Source.maxPwdLen ≤ i + k → startIndex c < 0)
    (u : PwdNextUnit) :
    ∃ w : Vector Int Source.maxPwdLen, setStart i startingPwd u = .ok { u with charIndicies := w } ∧
      (∀ j, (bound : j < Source.maxPwdLen) → j < i → w[j] = u.charIndicies[j]) ∧
      ∀ k, (bound : i + k < Source.maxPwdLen) → w[i + k] =
        match startingPwd[k]? with
        | some c => if 0 ≤ startIndex c then startIndex c else u.charIndicies[i + k]
        | none => u.charIndicies[i + k] := by
  induction startingPwd generalizing i u with
  | nil => exact ⟨u.charIndicies, rfl, fun _ _ _ => rfl, fun _ _ => rfl⟩
  | cons c rest ih =>
    have later : ∀ k d, rest[k]? = some d → Source.maxPwdLen ≤ i + 1 + k → startIndex d < 0 := by
      intro k d found beyond
      exact fits (k + 1) d found (by omega)
    by_cases known : 0 ≤ startIndex c
    · have inside : i < Source.maxPwdLen := by
        by_contra beyond
        have unknown := fits 0 c rfl (by omega)
        omega
      obtain ⟨w, call, below, above⟩ :=
        ih later { u with charIndicies := u.charIndicies.setIfInBounds i (startIndex c) }
      refine ⟨w, ?_, fun j bound less => ?_, fun k bound => ?_⟩
      · rw [setStart, if_pos known, u.setCharIndicies_inside inside]
        exact call
      · rw [below j bound (by omega), Vector.getElem_setIfInBounds bound, if_neg (by omega)]
      · cases k with
        | zero =>
          have here := below i inside (Nat.lt_succ_self i)
          rw [Vector.getElem_setIfInBounds inside, if_pos rfl] at here
          simpa only [Nat.add_zero, List.getElem?_cons_zero, if_pos known] using here
        | succ k =>
          have here := above k (by omega)
          have same : i + 1 + k = i + (k + 1) := by omega
          simp only [same] at here
          rw [Vector.getElem_setIfInBounds bound, if_neg (by omega)] at here
          exact here
    · obtain ⟨w, call, below, above⟩ := ih later u
      refine ⟨w, ?_, fun j bound less => below j bound (by omega), fun k bound => ?_⟩
      · rw [setStart, if_neg known]
        exact call
      · cases k with
        | zero =>
          have here := below i bound (Nat.lt_succ_self i)
          simpa only [Nat.add_zero, List.getElem?_cons_zero, if_neg known] using here
        | succ k =>
          have here := above k (by omega)
          have same : i + 1 + k = i + (k + 1) := by omega
          simp only [same] at here
          exact here

/-- A character that it knows behind the tenth is written outside the array. -/
theorem setStart_outside {i k : Nat} {c : UInt8} {startingPwd : List UInt8}
    (found : startingPwd[k]? = some c) (beyond : Source.maxPwdLen ≤ i + k)
    (known : 0 ≤ startIndex c) (u : PwdNextUnit) : setStart i startingPwd u = .error .outOfBounds := by
  induction startingPwd generalizing i k u with
  | nil => cases found
  | cons d rest ih =>
    unfold setStart
    cases k with
    | zero =>
      cases found
      have above : (Source.maxPwdLen : Int) ≤ i := Int.ofNat_le.mpr beyond
      rw [if_pos known, u.setCharIndicies_outside (Or.inr above)]
    | succ k =>
      have later : Source.maxPwdLen ≤ i + 1 + k := by omega
      by_cases here : 0 ≤ startIndex d
      · rw [if_pos here]
        by_cases inside : i < Source.maxPwdLen
        · rw [u.setCharIndicies_inside inside]
          exact ih found later _
        · rw [u.setCharIndicies_outside (Or.inr (Int.ofNat_le.mpr (Nat.not_lt.mp inside)))]
      · rw [if_neg here]
        exact ih found later u

theorem clearRest_inside {count : Nat} (fits : count ≤ Source.maxPwdLen) (u : PwdNextUnit) :
    ∃ w : Vector Int Source.maxPwdLen, clearRest count u = .ok { u with charIndicies := w } ∧
      ∀ j, (bound : j < Source.maxPwdLen) →
        w[j] = if Source.maxPwdLen ≤ j + count then -1 else u.charIndicies[j] := by
  induction count generalizing u with
  | zero =>
    refine ⟨u.charIndicies, rfl, fun j bound => ?_⟩
    rw [if_neg (by omega)]
  | succ count ih =>
    have place : (10 : Int) - (count + 1) = (Source.maxPwdLen - (count + 1) : Nat) := by
      have most : (Source.maxPwdLen : Int) = 10 := rfl
      omega
    obtain ⟨w, call, cleared⟩ := ih (by omega)
      { u with charIndicies := u.charIndicies.setIfInBounds (Source.maxPwdLen - (count + 1)) (-1) }
    refine ⟨w, ?_, fun j bound => ?_⟩
    · unfold clearRest
      rw [place, u.setCharIndicies_inside (by omega)]
      exact call
    · rw [cleared j bound, Vector.getElem_setIfInBounds bound]
      split_ifs <;> first | rfl | omega

/-- A negative start length clears in front of the array. -/
theorem clearRest_outside {count : Nat} (beyond : Source.maxPwdLen < count) (u : PwdNextUnit) :
    clearRest count u = .error .outOfBounds := by
  have most : Source.maxPwdLen = 10 := rfl
  obtain ⟨more, rfl⟩ : ∃ more, count = Source.maxPwdLen + more + 1 := ⟨count - 11, by omega⟩
  unfold clearRest
  rw [u.setCharIndicies_outside (Or.inl (by omega))]

section StartFrom
variable {s : PwdState} {startingPwd : List UInt8} {startLen : Int}

theorem startFrom_of_setStart (length : startLen = min (toInt32 startingPwd.length) s.maxPwdLen)
    {fault : Fault} (written : setStart 0 (startingPwd.take startLen.toNat)
      (s.generator.setTestPwdLen startLen) = .error fault) :
    s.startFrom startingPwd = .error fault := by
  subst length
  unfold startFrom
  dsimp only
  rw [written]

theorem startFrom_of_clearRest (length : startLen = min (toInt32 startingPwd.length) s.maxPwdLen)
    {u : PwdNextUnit} (written : setStart 0 (startingPwd.take startLen.toNat)
      (s.generator.setTestPwdLen startLen) = .ok u)
    {fault : Fault} (cleared : clearRest (10 - startLen).toNat u = .error fault) :
    s.startFrom startingPwd = .error fault := by
  subst length
  unfold startFrom
  dsimp only
  rw [written]
  dsimp only
  rw [cleared]

theorem startFrom_of_cleared (length : startLen = min (toInt32 startingPwd.length) s.maxPwdLen)
    {u v : PwdNextUnit} (written : setStart 0 (startingPwd.take startLen.toNat)
      (s.generator.setTestPwdLen startLen) = .ok u)
    (cleared : clearRest (10 - startLen).toNat u = .ok v) :
    s.startFrom startingPwd = v.setNext.map fun answer => { s with generator := answer.2 } := by
  subst length
  unfold startFrom
  dsimp only
  rw [written]
  dsimp only
  rw [cleared]
  dsimp only
  cases v.setNext <;> rfl

end StartFrom

end PwdState

/-! ## The whole call -/

namespace PwdConfig

/-- start_len -/
def startLen (c : PwdConfig) : Int :=
  min (toInt32 c.startingPassword.toUTF8.toList.length) c.maxPasswordLength

/-- The characters that startup looks at. -/
def startBytes (c : PwdConfig) : List UInt8 :=
  c.startingPassword.toUTF8.toList.take c.startLen.toNat

/-- What startup writes for them lies inside charIndicies. -/
def StartFits (c : PwdConfig) : Prop :=
  0 ≤ c.startLen ∧ ∀ k b, c.startBytes[k]? = some b → maxPwdLen ≤ k → PwdState.startIndex b < 0

/-- The index that they leave at a position. -/
def startedIndex (c : PwdConfig) (j : Nat) : Int :=
  match c.startBytes[j]? with
  | some b => PwdState.startIndex b
  | none => -1

/-- The generator in front of startup's own call of setNext. -/
def started (c : PwdConfig) : PwdNextUnit :=
  { c.state.generator with
    charIndicies := Vector.ofFn fun j : Fin maxPwdLen => c.startedIndex j
    testPwdLen := c.startLen }

theorem blank_state (c : PwdConfig) : c.state.generator.Blank :=
  ⟨blank_new.unset, rfl, rfl⟩

theorem startLen_eq (c : PwdConfig) :
    c.startLen = min (toInt32 c.startingPassword.toUTF8.toList.length) c.state.maxPwdLen := rfl

theorem startFrom_outside {c : PwdConfig} (outside : ¬ c.StartFits) :
    c.state.startFrom c.startingPassword.toUTF8.toList = .error .outOfBounds := by
  by_cases inside : ∀ k b, c.startBytes[k]? = some b → maxPwdLen ≤ k → PwdState.startIndex b < 0
  · have negative : c.startLen < 0 := by
      by_contra started
      exact outside ⟨by omega, inside⟩
    have beyond : maxPwdLen < (10 - c.startLen).toNat := by
      have most : maxPwdLen = 10 := rfl
      omega
    obtain ⟨w, written, -⟩ := PwdState.setStart_inside (i := 0)
      (fun k b found beyond => inside k b found (by omega))
      (c.state.generator.setTestPwdLen c.startLen)
    exact PwdState.startFrom_of_clearRest c.startLen_eq written
      (PwdState.clearRest_outside beyond _)
  · simp only [not_forall] at inside
    obtain ⟨k, b, found, beyond, known⟩ := inside
    exact PwdState.startFrom_of_setStart c.startLen_eq
      (PwdState.setStart_outside found (by omega) (by omega) _)

theorem startFrom_inside {c : PwdConfig} (fits : c.StartFits) :
    c.state.startFrom c.startingPassword.toUTF8.toList =
      c.started.setNext.map fun answer => { c.state with generator := answer.2 } := by
  obtain ⟨low, inside⟩ := fits
  have most : maxPwdLen = 10 := rfl
  obtain ⟨w, written, -, shown⟩ := PwdState.setStart_inside (i := 0)
    (fun k b found beyond => inside k b found (by omega))
    (c.state.generator.setTestPwdLen c.startLen)
  have rounds : (10 - c.startLen).toNat ≤ maxPwdLen := by omega
  obtain ⟨x, cleared, rest⟩ := PwdState.clearRest_inside rounds
    { c.state.generator.setTestPwdLen c.startLen with charIndicies := w }
  have indices : x = Vector.ofFn fun j : Fin maxPwdLen => c.startedIndex j := by
    ext j bound
    have blank : (c.state.generator.setTestPwdLen c.startLen).charIndicies[j] = -1 :=
      c.blank_state.unset j bound
    have here := shown j (by omega)
    simp only [Nat.zero_add, blank] at here
    rw [rest j bound, Vector.getElem_ofFn, startedIndex]
    by_cases beyond : maxPwdLen ≤ j + (10 - c.startLen).toNat
    · have short : c.startBytes.length ≤ j := by
        have longest : c.startBytes.length ≤ c.startLen.toNat := List.length_take_le _ _
        omega
      rw [if_pos beyond, List.getElem?_eq_none short]
    · rw [if_neg beyond]
      refine here.trans ?_
      cases c.startBytes[j]? with
      | none => rfl
      | some b =>
        dsimp only
        have low := PwdState.startIndex_low b
        split <;> omega
  subst indices
  exact PwdState.startFrom_of_cleared c.startLen_eq written cleared

/-- A config file that startup reads to its end, with a starting password. -/
def Starts (c : PwdConfig) (config : Option Json) : Prop :=
  ∃ cfg, config = some cfg ∧ c.ReadFrom cfg ∧ c.startingPassword ≠ ""

theorem Starts.unique {c d : PwdConfig} {config : Option Json} (first : c.Starts config)
    (second : d.Starts config) : c = d := by
  obtain ⟨cfg, rfl, reads, -⟩ := first
  obtain ⟨_, ⟨⟩, again, -⟩ := second
  cases c
  cases d
  have la := Except.ok.inj (reads.lowerAlpha.symm.trans again.lowerAlpha)
  have ua := Except.ok.inj (reads.upperAlpha.symm.trans again.upperAlpha)
  have num := Except.ok.inj (reads.numeric.symm.trans again.numeric)
  have na := Except.ok.inj (reads.nonAlpha.symm.trans again.nonAlpha)
  have length := Except.ok.inj (reads.maxLength.symm.trans again.maxLength)
  have starting := Except.ok.inj (reads.starting.symm.trans again.starting)
  simp_all

end PwdConfig

namespace PwdState

theorem configured_of_starts {c : PwdConfig} {config : Option Json} (starts : c.Starts config) :
    configured config = c.state.startFrom c.startingPassword.toUTF8.toList := by
  obtain ⟨cfg, rfl, reads, starting⟩ := starts
  rw [PwdConfig.configured_of_readFrom reads, if_neg starting]

/-- Without a starting password startup leaves the generator as it is new. -/
theorem configured_cases (config : Option Json) :
    (∃ s, configured config = .ok s ∧ s.generator.Blank ∧
        ∀ c : PwdConfig, ¬ c.Starts config) ∨
      ∃ c : PwdConfig, c.Starts config ∧
        configured config = c.state.startFrom c.startingPassword.toUTF8.toList := by
  cases config with
  | none =>
    refine Or.inl ⟨.new, rfl, blank_new, ?_⟩
    rintro c ⟨cfg, ⟨⟩, -⟩
  | some cfg =>
    by_cases starts : ∃ c : PwdConfig, c.Starts (some cfg)
    · obtain ⟨c, started⟩ := starts
      exact Or.inr ⟨c, started, configured_of_starts started⟩
    · refine Or.inl ?_
      suffices found : ∃ s, readConfig .new cfg = .ok s ∧ s.generator.Blank by
        obtain ⟨s, call, blank⟩ := found
        exact ⟨s, call, blank, fun c started => starts ⟨c, started⟩⟩
      unfold readConfig
      split
      next => exact ⟨_, rfl, blank_new⟩
      next la readLa =>
        dsimp only
        split
        next => exact ⟨_, rfl, blank_new⟩
        next ua readUa =>
          split
          next => exact ⟨_, rfl, blank_new⟩
          next num readNum =>
            split
            next => exact ⟨_, rfl, blank_new⟩
            next na readNa =>
              split
              next => exact ⟨_, rfl, blank_new⟩
              next length readLength =>
                split
                next => exact ⟨_, rfl, blank_new.unset, rfl, rfl⟩
                next starting readStarting =>
                  by_cases empty : starting = ""
                  · rw [if_pos empty]
                    exact ⟨_, rfl, blank_new.unset, rfl, rfl⟩
                  · exact absurd ⟨⟨la, ua, num, na, length, starting⟩, cfg, rfl,
                      ⟨readLa, readUa, readNum, readNa, readLength, readStarting⟩, empty⟩ starts

/-! ## The resume state -/

/-- The loop over the stored indices stays inside charIndicies. -/
theorem resumeIndicies_inside {ci : Json} {i count : Nat} (rounds : i + count ≤ Source.maxPwdLen)
    (u : PwdNextUnit) :
    (∃ what, resumeIndicies ci i count u = .error (.threw what)) ∨
      ∃ w, resumeIndicies ci i count u = .ok { u with charIndicies := w } := by
  induction count generalizing i u with
  | zero => exact Or.inr ⟨u.charIndicies, rfl⟩
  | succ count ih =>
    unfold resumeIndicies
    split
    next what _ => exact Or.inl ⟨what, rfl⟩
    next element _ =>
      split
      next what _ => exact Or.inl ⟨what, rfl⟩
      next index _ =>
        rw [u.setCharIndicies_inside (by omega)]
        exact ih (by omega) _

theorem resumeGenerator_inside (resume : Json) (u : PwdNextUnit) :
    (∃ what, resumeGenerator resume u = .error (.threw what)) ∨
      ∃ w, resumeGenerator resume u = .ok { u with charIndicies := w } := by
  unfold resumeGenerator
  split
  next ci _ =>
    have rounds : 0 + min 10 ci.elements.length ≤ 10 := by omega
    exact resumeIndicies_inside rounds u
  next => exact Or.inr ⟨u.charIndicies, rfl⟩

theorem resumeField_threw {α : Type} {resume : Json} {key : String} {current : α}
    {get : Json → Except Exception α} {failure : StartupFailure}
    (failed : resumeField resume key current get = .error failure) :
    ∃ what, failure = .threw what := by
  unfold resumeField at failed
  split at failed
  · split at failed
    · cases failed
    · cases failed
      exact ⟨_, rfl⟩
  · cases failed

/-- Only the configuration can make startup fail with a fault. -/
theorem startup_fault_iff {config : Option Json} {resume : Json} {fault : Fault} :
    startup config resume = .error (.fault fault) ↔ configured config = .error fault := by
  unfold startup
  cases call : configured config with
  | error other =>
    constructor
    · intro failed
      cases failed
      rfl
    · intro failed
      cases failed
      rfl
  | ok s =>
    constructor
    · intro failed
      obtain failed | ⟨t, same, failed⟩ := bind_eq_error.mp failed
      · cases failed
      cases same
      split at failed
      · cases failed
      obtain failed | ⟨u, -, failed⟩ := bind_eq_error.mp failed
      · rcases resumeGenerator_inside resume s.generator with ⟨what, threw⟩ | ⟨w, resumed⟩
        · rw [threw] at failed
          cases failed
        · rw [resumed] at failed
          cases failed
      iterate 3
        obtain failed | ⟨_, -, failed⟩ := bind_eq_error.mp failed
        · obtain ⟨what, threw⟩ := resumeField_threw failed
          cases threw
      cases failed
    · intro failed
      cases failed

/-- A startup that succeeds: the fields of the resume state replace those of the
configured state. -/
theorem startup_ok {config : Option Json} {resume : Json} {s : PwdState}
    (started : startup config resume = .ok s) :
    ∃ s₀, configured config = .ok s₀ ∧ ((resume.isEmpty = true ∧ s = s₀) ∨
      resume.isEmpty = false ∧ ∃ w testPwdLen permuteStatus seq,
        resumeField resume "testPwdLen" s₀.generator.testPwdLen Json.getInt = .ok testPwdLen ∧
        s = { s₀ with
          generator := ({ s₀.generator with charIndicies := w }.setTestPwdLen
            testPwdLen).setPermuteStatus permuteStatus
          seq := seq }) := by
  unfold startup at started
  obtain ⟨s₀, call, started⟩ := bind_eq_ok.mp started
  cases configured : configured config with
  | error fault =>
    rw [configured] at call
    cases call
  | ok s₁ =>
    rw [configured] at call
    cases call
    refine ⟨s₀, rfl, ?_⟩
    split at started
    next empty =>
      cases started
      exact Or.inl ⟨empty, rfl⟩
    next filled =>
      obtain ⟨u, resumed, started⟩ := bind_eq_ok.mp started
      obtain ⟨testPwdLen, length, started⟩ := bind_eq_ok.mp started
      obtain ⟨permuteStatus, -, started⟩ := bind_eq_ok.mp started
      obtain ⟨seq, -, started⟩ := bind_eq_ok.mp started
      cases started
      rcases resumeGenerator_inside resume s₀.generator with ⟨what, threw⟩ | ⟨w, written⟩
      · rw [threw] at resumed
        cases resumed
      · rw [written] at resumed
        cases resumed
        exact Or.inr ⟨Bool.eq_false_of_not_eq_true filled, w, testPwdLen, permuteStatus, seq,
          length, rfl⟩

end PwdState

end PnC.Source
