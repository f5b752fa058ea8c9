import PnC.Source.PluginProgress
import PnC.Source.PwdProgress

/-!
# PWD across a checkpoint

startup and next_unit keep every number of the generator in the range of int, so the
checkpoint holds it whole and startup reads back what was written.
-/
namespace PnC.Source

namespace PwdNextUnit

/-- A generator whose numbers a checkpoint keeps. -/
structure Stored (u : PwdNextUnit) : Prop where
  consistent : u.Consistent
  testPwdLen : FitsInt32 u.testPwdLen
  charIndicies : ∀ j, (bound : j < maxPwdLen) → FitsInt32 u.charIndicies[j]

/-- The second stands where the first does, or was raised from there. -/
def Ahead (u v : PwdNextUnit) : Prop :=
  v.charIndicies = u.charIndicies ∧ v.testPwdLen = u.testPwdLen ∨ u.Raised v

theorem Ahead.raised {u v w : PwdNextUnit} (ahead : u.Ahead v) (raised : v.Raised w) :
    u.Raised w := by
  rcases ahead with ⟨indices, length⟩ | first
  · unfold Raised at raised ⊢
    rw [← length]
    simpa only [indices] using raised
  · exact first.trans raised

theorem Ahead.trans {u v w : PwdNextUnit} (first : u.Ahead v) (second : v.Ahead w) :
    u.Ahead w := by
  rcases second with ⟨indices, length⟩ | raised
  · rcases first with ⟨indices', length'⟩ | raised
    · exact Or.inl ⟨indices.trans indices', length.trans length'⟩
    · refine Or.inr ?_
      unfold Raised at raised ⊢
      rw [length]
      simpa only [indices] using raised
  · exact Or.inr (first.raised raised)

/-- Every setNext that returns leads ahead and writes only the position. -/
theorem setNext_ahead {u v : PwdNextUnit} {status : PermuteStatus} (consistent : u.Consistent)
    (call : u.setNext = .ok (status, v)) :
    u.Ahead v ∧ v = { u with
      charIndicies := v.charIndicies
      testPwdLen := v.testPwdLen
      permuteStatus := v.permuteStatus } := by
  by_cases success : status = .success
  · subst success
    obtain ⟨raised, same, -, -⟩ := setNext_success consistent call
    refine ⟨Or.inr raised, ?_⟩
    rw [same]
  · rw [setNext_refused success call]
    exact ⟨Or.inl ⟨rfl, rfl⟩, rfl⟩

theorem InTable.fits {index : Int} (inTable : InTable index) : FitsInt32 index := by
  obtain ⟨low, high⟩ := inTable
  have top : rangeNaUpper = 85 := rfl
  unfold FitsInt32
  omega

theorem stored_new : Stored .new where
  consistent := rfl
  testPwdLen := by decide
  charIndicies j bound := by
    simp only [new, Vector.getElem_replicate]
    decide

theorem Stored.setTestPwdLen {u : PwdNextUnit} (stored : u.Stored) {testLen : Int}
    (fits : FitsInt32 testLen) : (u.setTestPwdLen testLen).Stored :=
  ⟨stored.consistent, fits, stored.charIndicies⟩

/-- set_charIndicies writes one position, inside the array. -/
theorem setCharIndicies_ok {u v : PwdNextUnit} {charIdx charIdxValue : Int}
    (call : u.setCharIndicies charIdx charIdxValue = .ok v) :
    v = { u with charIndicies := u.charIndicies.setIfInBounds charIdx.toNat charIdxValue } := by
  unfold setCharIndicies at call
  split at call
  next => exact (Except.ok.inj call).symm
  next => cases call

theorem Stored.setCharIndicies {u v : PwdNextUnit} (stored : u.Stored) {charIdx charIdxValue : Int}
    (fits : FitsInt32 charIdxValue) (call : u.setCharIndicies charIdx charIdxValue = .ok v) :
    v.Stored := by
  rw [setCharIndicies_ok call]
  refine ⟨stored.consistent, stored.testPwdLen, fun j bound => ?_⟩
  simp only [Vector.getElem_setIfInBounds]
  split
  · exact fits
  · exact stored.charIndicies j bound

theorem Stored.setNext {u v : PwdNextUnit} {status : PermuteStatus} (stored : u.Stored)
    (call : u.setNext = .ok (status, v)) : v.Stored := by
  by_cases success : status = .success
  · subst success
    obtain ⟨-, same, written, length⟩ := setNext_success stored.consistent call
    constructor
    case consistent =>
      rw [same]
      exact stored.consistent
    case testPwdLen =>
      rcases length with kept | ⟨low, high⟩
      · rw [kept]
        exact stored.testPwdLen
      · have most : (maxPwdLen : Int) = 10 := rfl
        unfold FitsInt32
        omega
    case charIndicies =>
      intro j bound
      rcases written j bound with kept | placed
      · rw [kept]
        exact stored.charIndicies j bound
      · exact placed.fits
  · rw [setNext_refused success call]
    exact ⟨stored.consistent, stored.testPwdLen, stored.charIndicies⟩

end PwdNextUnit

open LoadedPlugin

namespace PwdState

/-! ## startup -/

theorem fits_startIndex (c : UInt8) : FitsInt32 (startIndex c) := by
  have byte := c.toNat_lt
  unfold startIndex FitsInt32
  split_ifs
  · omega
  · omega
  · omega
  · split
    next j found =>
      have inside : j < startNonAlpha.length := (List.findIdx?_eq_some_iff_getElem.mp found).1
      have length : startNonAlpha.length = 23 := rfl
      omega
    next => decide

theorem stored_setStart {i : Nat} {startingPwd : List UInt8} {u v : PwdNextUnit}
    (stored : u.Stored) (call : setStart i startingPwd u = .ok v) : v.Stored := by
  induction startingPwd generalizing i u with
  | nil =>
    cases call
    exact stored
  | cons c rest ih =>
    unfold setStart at call
    split at call
    next =>
      split at call
      next => cases call
      next written => exact ih (stored.setCharIndicies (fits_startIndex c) written) call
    next => exact ih stored call

theorem stored_clearRest {count : Nat} {u v : PwdNextUnit} (stored : u.Stored)
    (call : clearRest count u = .ok v) : v.Stored := by
  induction count generalizing u with
  | zero =>
    cases call
    exact stored
  | succ count ih =>
    unfold clearRest at call
    split at call
    next => cases call
    next cleared => exact ih (stored.setCharIndicies (by decide) cleared) call

theorem stored_startFrom {s t : PwdState} {startingPwd : List UInt8} (stored : s.generator.Stored)
    (fits : FitsInt32 s.maxPwdLen) (call : s.startFrom startingPwd = .ok t) :
    t.generator.Stored ∧ t.seq = s.seq := by
  have startLen : FitsInt32 (min (toInt32 startingPwd.length) s.maxPwdLen) := by
    have length := fits_toInt32 startingPwd.length
    unfold FitsInt32 at length fits ⊢
    omega
  unfold startFrom at call
  dsimp only at call
  split at call
  next => cases call
  next u set =>
    split at call
    next => cases call
    next v cleared =>
      split at call
      next => cases call
      next advanced =>
        cases call
        have started := stored_setStart (stored.setTestPwdLen startLen) set
        exact ⟨(stored_clearRest started cleared).setNext advanced, rfl⟩

theorem stored_setUse (s : PwdState) (stored : s.generator.Stored) : s.setUse.generator.Stored :=
  ⟨rfl, stored.testPwdLen, stored.charIndicies⟩

theorem stored_readConfig {s t : PwdState} {cfg : Json} (stored : s.generator.Stored)
    (call : s.readConfig cfg = .ok t) : t.generator.Stored ∧ t.seq = s.seq := by
  unfold readConfig at call
  iterate 4
    split at call
    · cases call
      exact ⟨stored, rfl⟩
  split at call
  next =>
    cases call
    exact ⟨stored, rfl⟩
  next maxPwdLen read =>
    split at call
    next =>
      cases call
      exact ⟨stored_setUse _ stored, rfl⟩
    next =>
      split at call
      next =>
        cases call
        exact ⟨stored_setUse _ stored, rfl⟩
      next =>
        refine (stored_startFrom ?_ ?_ call :)
        · exact stored_setUse _ stored
        · exact Json.fits_value (by decide) read

theorem stored_configured {config : Option Json} {s : PwdState} (call : configured config = .ok s) :
    s.generator.Stored ∧ s.seq = 0 := by
  cases config with
  | none =>
    cases call
    exact ⟨PwdNextUnit.stored_new, rfl⟩
  | some cfg => exact stored_readConfig PwdNextUnit.stored_new call

/-- What holds of every state of a producer with this configuration: but for the
position of its generator it is the state of a new one. -/
structure Permutes (config : Option Json) (s : PwdState) : Prop where
  configured : ∃ s₀, configured config = .ok s₀ ∧
    s = { s₀ with
      generator := { s₀.generator with
        charIndicies := s.generator.charIndicies
        testPwdLen := s.generator.testPwdLen
        permuteStatus := s.generator.permuteStatus }
      seq := s.seq }
  stored : s.generator.Stored
  seq : FitsInt32 s.seq

/-- The loop of startup reads the positions it has to go. -/
theorem resumeIndicies_restores {indices : Vector Int Source.maxPwdLen}
    (fits : ∀ j, (bound : j < Source.maxPwdLen) → FitsInt32 indices[j]) {i count : Nat}
    (rounds : i + count = Source.maxPwdLen) (u : PwdNextUnit) :
    ∃ v, resumeIndicies (.array (indices.toList.map Json.numberInteger)) i count u = .ok v ∧
      v = { u with charIndicies := v.charIndicies } ∧
      ∀ j, (bound : j < Source.maxPwdLen) →
        v.charIndicies[j] = if j < i then u.charIndicies[j] else indices[j] := by
  induction count generalizing i u with
  | zero =>
    refine ⟨u, rfl, rfl, fun j bound => ?_⟩
    rw [if_pos (by omega)]
  | succ count ih =>
    have inside : i < Source.maxPwdLen := by omega
    have element : elementAt (.array (indices.toList.map Json.numberInteger)) i =
        .ok (.numberInteger indices[i]) := by
      simp [elementAt, inside]
    have written : u.setCharIndicies i indices[i] =
        .ok { u with charIndicies := u.charIndicies.setIfInBounds i indices[i] } := by
      rw [PwdNextUnit.setCharIndicies, if_pos (by omega), Int.toNat_natCast]
    obtain ⟨v, loops, same, restored⟩ := ih (i := i + 1) (by omega)
      { u with charIndicies := u.charIndicies.setIfInBounds i indices[i] }
    refine ⟨v, ?_, same, fun j bound => ?_⟩
    · simp only [resumeIndicies, element, Json.getInt, toInt32_of_fits (fits i inside), written]
      exact loops
    · rw [restored j bound]
      simp only [Vector.getElem_setIfInBounds]
      grind

/-- A stored number in the range of int is read back as it is. -/
theorem resumeField_getInt {resume : Json} {key : String} {n : Int}
    (stored : resume.find key = some (.numberInteger n)) (fits : FitsInt32 n) (current : Int) :
    resumeField resume key current Json.getInt = .ok n := by
  simp [resumeField, Json.contains, Json.require, stored, Json.getInt, toInt32_of_fits fits]

theorem startup_checkpoint {config : Option Json} {s₀ : PwdState} (s : PwdState)
    (call : configured config = .ok s₀) (stored : s.generator.Stored) (seq : FitsInt32 s.seq) :
    startup config s.checkpoint =
      .ok { s₀ with
        generator := { s₀.generator with
          charIndicies := s.generator.charIndicies
          testPwdLen := s.generator.testPwdLen
          permuteStatus := s.generator.permuteStatus }
        seq := s.seq } := by
  obtain ⟨v, loops, same, restored⟩ :=
    resumeIndicies_restores stored.charIndicies (Nat.zero_add _) s₀.generator
  have indices : v.charIndicies = s.generator.charIndicies := by
    ext j bound
    rw [restored j bound, if_neg (Nat.not_lt_zero j)]
  have generator : resumeGenerator s.checkpoint s₀.generator =
      .ok { s₀.generator with charIndicies := s.generator.charIndicies } := by
    rw [← indices, ← same, ← loops]
    simp [resumeGenerator, checkpoint, Json.find, List.lookup_cons, Json.elements]
  have status : decide (s.generator.getPermuteStatus ≠ 0) = s.generator.permuteStatus := by
    unfold PwdNextUnit.getPermuteStatus
    cases s.generator.permuteStatus <;> rfl
  have statusFits : FitsInt32 s.generator.getPermuteStatus := by
    unfold PwdNextUnit.getPermuteStatus
    split <;> decide
  have empty : s.checkpoint.isEmpty = false := rfl
  have length : s.checkpoint.find "testPwdLen" = some (.numberInteger _) := rfl
  have permuteStatus : s.checkpoint.find "permuteStatus" = some (.numberInteger _) := rfl
  have number : s.checkpoint.find "seq" = some (.numberInteger _) := rfl
  simp only [startup, call, Except.mapError, bind, Except.bind, pure, Except.pure, empty, generator,
    Bool.false_eq_true, if_false, resumeField_getInt length stored.testPwdLen,
    resumeField_getInt permuteStatus statusFits, resumeField_getInt number seq,
    PwdNextUnit.setTestPwdLen, PwdNextUnit.setPermuteStatus, status]

/-! ## next_unit -/

/-- A unit is the generator's next password, spelled out by its indices. -/
theorem nextUnit_unit {s next : PwdState} {j : Json} (call : s.nextUnit = .unit next j) :
    ∃ u password indicies text,
      s.generator.setNext = .ok (.success, u) ∧ u.getPwdAsIndicies = .ok indicies ∧
        next = { s with generator := u, seq := toInt32 (s.seq + 1) } ∧
          j = .object [("task", .string "PWD"), ("password", .string password),
            ("indicies", .string indicies), ("text", .string text),
            ("seq", .numberInteger (toInt32 (s.seq + 1)))] := by
  unfold nextUnit at call
  split at call
  next => cases call
  next status u set =>
    split at call
    next success =>
      subst success
      dsimp only at call
      split at call
      next => cases call
      next spelled =>
        cases call
        unfold job at spelled
        cases password : u.getPlainPassword with
        | error => simp [password, bind, Except.bind] at spelled
        | ok password' =>
          cases indicies : u.getPwdAsIndicies with
          | error => simp [password, indicies, bind, Except.bind] at spelled
          | ok indicies' =>
            cases text : u.getPwdAsText with
            | error => simp [password, indicies, text, bind, Except.bind] at spelled
            | ok text' =>
              simp only [password, indicies, text, bind, Except.bind, pure, Except.pure] at spelled
              exact ⟨u, _, _, _, set, indicies, rfl, (Except.ok.inj spelled).symm⟩
    next => cases call

/-- What one call leaves: the state itself, or a new generator. -/
theorem after_pwd (s : PwdState) :
    createPwdPlugin.after s = s ∨
      ∃ status u, s.generator.setNext = .ok (status, u) ∧
        (createPwdPlugin.after s).generator = u ∧
          createPwdPlugin.after s =
            { s with generator := u, seq := (createPwdPlugin.after s).seq } ∧
          ((createPwdPlugin.after s).seq = s.seq ∨
            (createPwdPlugin.after s).seq = toInt32 (s.seq + 1)) := by
  unfold TestPlugin.after createPwdPlugin
  dsimp only
  unfold nextUnit
  cases call : s.generator.setNext with
  | error => exact Or.inl rfl
  | ok answer =>
    obtain ⟨status, u⟩ := answer
    dsimp only
    by_cases success : status = .success
    · rw [if_pos success]
      cases spelled : job u (toInt32 (s.seq + 1)) with
      | error => exact Or.inl rfl
      | ok => exact Or.inr ⟨_, u, rfl, rfl, rfl, Or.inr rfl⟩
    · rw [if_neg success]
      exact Or.inr ⟨_, u, rfl, rfl, rfl, Or.inl rfl⟩

theorem permutes_after {config : Option Json} {s : PwdState} (permutes : Permutes config s) :
    Permutes config (createPwdPlugin.after s) := by
  rcases after_pwd s with idle | ⟨status, u, call, generator, same, seq⟩
  · rw [idle]
    exact permutes
  · obtain ⟨⟨s₀, configured, position⟩, stored, fits⟩ := permutes
    obtain ⟨-, writes⟩ := PwdNextUnit.setNext_ahead stored.consistent call
    constructor
    case configured =>
      refine ⟨s₀, configured, ?_⟩
      rw [same, writes, position]
    case stored =>
      rw [generator]
      exact stored.setNext call
    case seq =>
      rcases seq with kept | counted
      · rw [kept]
        exact fits
      · rw [counted]
        exact fits_toInt32 _

theorem pwd_resumable (config : Option Json) :
    (initPlugin (.pwd config)).Resumable (Permutes config) where
  fresh s started := by
    change ((configured config).mapError StartupFailure.fault >>= fun s =>
      if Json.null.isEmpty then .ok s else _) = .ok s at started
    cases configured : configured config with
    | error fault =>
      rw [configured] at started
      cases started
    | ok s₀ =>
      rw [configured] at started
      cases started
      obtain ⟨stored, seq⟩ := stored_configured configured
      refine ⟨⟨s, configured, rfl⟩, stored, ?_⟩
      rw [seq]
      decide
  after s permutes := permutes_after permutes
  restore s permutes := by
    obtain ⟨⟨s₀, configured, position⟩, stored, fits⟩ := permutes
    refine (startup_checkpoint s configured stored fits).trans ?_
    exact congrArg Except.ok position.symm

/-- The generator stands still or is raised: no password comes twice. -/
theorem pwd_progress (config : Option Json) :
    createPwdPlugin.Progress (Permutes config) (fun s t => s.generator.Ahead t.generator) where
  refl s := Or.inl ⟨rfl, rfl⟩
  trans r s t := PwdNextUnit.Ahead.trans
  after s permutes := by
    rcases after_pwd s with idle | ⟨status, u, call, generator, -, -⟩
    · rw [idle]
      exact Or.inl ⟨rfl, rfl⟩
    · rw [generator]
      exact (PwdNextUnit.setNext_ahead permutes.stored.consistent call).1
  fresh s next t later j permutes first permutesLater ahead second := by
    obtain ⟨u, password, indicies, text, -, spelled, rfl, job⟩ := nextUnit_unit first
    obtain ⟨v, password', indicies', text', call, spelledLater, -, jobLater⟩ := nextUnit_unit second
    rw [job] at jobLater
    have same : indicies = indicies' := by
      simp only [Json.object.injEq, List.cons.injEq, Prod.mk.injEq, Json.string.injEq] at jobLater
      exact jobLater.2.2.1.2
    subst same
    have raised := (PwdNextUnit.setNext_success permutesLater.stored.consistent call).1
    exact (PwdNextUnit.Ahead.raised ahead raised).indicies_differ spelled spelledLater

end PwdState

end PnC.Source
