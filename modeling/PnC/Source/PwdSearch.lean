import PnC.Source.EmittedUnits
import PnC.Source.PwdCalls
import PnC.Source.PwdHandler
import PnC.Source.PwdPlugin
import PnC.Source.QuietDeployment

/-!
# The words of a search

From a generator in the middle of its enumeration next_unit gives the words that are left,
in order, each as the password of a job, and then nothing.
-/
namespace PnC.Source

open PnC.Library PwdNextUnit

namespace PwdState

/-- The passwords of the enumeration. -/
def words (s : PwdState) : List (List Char) := shortlex s.generator.characters Source.maxPwdLen

/-- What PWD_Handler reads out of a job. -/
def password (job : Json) : Except Exception String := job.value "password" "" Json.getString

variable {s t : PwdState} {u : PwdNextUnit} {digits : List Nat}

theorem job_some {seq : Int} {made : Json} (call : job u seq = .ok made) :
    ∃ plain, u.getPlainPassword = .ok plain ∧ password made = .ok (plain.getD "") ∧
      made.isEmpty = false := by
  obtain ⟨plain, spelled, call⟩ := bind_eq_ok.mp call
  obtain ⟨indicies, -, call⟩ := bind_eq_ok.mp call
  obtain ⟨text, -, call⟩ := bind_eq_ok.mp call
  cases call
  exact ⟨plain, spelled, rfl, rfl⟩

theorem nextUnit_password {made : Json} (call : s.nextUnit = .unit t made) :
    ∃ u, s.generator.setNext = .ok (.success, u) ∧ t.generator = u ∧
      ∃ plain, u.getPlainPassword = .ok plain ∧ password made = .ok (plain.getD "") ∧
        made.isEmpty = false := by
  unfold nextUnit at call
  split at call
  next => cases call
  next status u stepped =>
    split at call
    next success =>
      dsimp only at call
      split at call
      next => cases call
      next written =>
        cases call
        exact ⟨u, success ▸ stepped, rfl, job_some written⟩
    next => cases call

/-- No job is empty. -/
theorem filled_of_offers {made : Json} (offers : createPwdPlugin.Offers made) :
    made.isEmpty = false := by
  obtain ⟨s, next, call⟩ := offers
  obtain ⟨u, -, -, plain, -, -, filled⟩ := nextUnit_password call
  exact filled

/-- The generator holds an odometer at the position, or has run out before it. -/
structure Walked (start : PwdState) (reached : Nat) (s : PwdState) : Prop where
  enabled : s.generator.useNone = false
  indices : s.generator.indices = start.generator.indices
  characters : s.generator.characters = start.generator.characters
  stands : (∃ digits, s.generator.Holds digits ∧
      position s.generator.characters.length digits = reached) ∨
    s.generator.permuteStatus = true ∧ start.words.length < reached

theorem length_characters (u : PwdNextUnit) : u.characters.length = u.indices.length :=
  length_charAlphabet _ _ _ _

/-- While words are left, next_unit gives the next one, and afterwards nothing. -/
theorem nextUnit_walked {start : PwdState} {reached : Nat} (walked : Walked start reached s)
    (nonempty : 0 < start.generator.characters.length) :
    ∃ t, Walked start (reached + 1) t ∧
      ((∃ word made, start.words[reached]? = some word ∧ s.nextUnit = .unit t made ∧
          password made = .ok (String.ofList word)) ∨
        start.words.length ≤ reached ∧ s.nextUnit = .exhausted t) := by
  obtain ⟨enabled, indices, characters, ⟨digits, holds, here⟩ | ⟨finished, passed⟩⟩ := walked
  · have positive : 0 < s.generator.indices.length := by
      rw [← length_characters, characters]
      exact nonempty
    have valid := holds.valid
    have next_ : position s.generator.characters.length (advance s.generator.indices.length digits) =
        reached + 1 := by
      rw [length_characters, position_advance valid, ← length_characters, here]
    have validNext : Digits s.generator.characters.length
        (advance s.generator.indices.length digits) := by
      rw [length_characters]
      exact digits_advance positive valid
    have within := length_le_iff_position_le (m := Source.maxPwdLen) s.generator.characters validNext
    rw [next_] at within
    by_cases room : (advance s.generator.indices.length digits).length ≤ Source.maxPwdLen
    · obtain ⟨u, call, after, sameIndices, sameCharacters⟩ :=
        setNext_advances holds positive room
      have word := shortlex_spell s.generator.characters validNext (advance_ne_nil _ _) room
      rw [next_, Nat.add_sub_cancel, characters] at word
      have plain := getPlainPassword_spells after
      obtain ⟨made, written⟩ := job_within (u := u) (by rw [after.length]; omega)
        (by rw [after.length]; exact_mod_cast room) (toInt32 (s.seq + 1))
      obtain ⟨plain', spelled, read, -⟩ := job_some written
      cases plain.symm.trans spelled
      refine ⟨{ s with generator := u, seq := toInt32 (s.seq + 1) },
        ⟨after.enabled, sameIndices.trans indices, sameCharacters.trans characters,
          .inl ⟨_, after, ?_⟩⟩, .inl ⟨_, made, word, ?_, ?_⟩⟩
      · dsimp only
        rw [sameCharacters]
        exact next_
      · rw [nextUnit, call]
        dsimp only
        rw [if_pos rfl, written]
      · rw [read, sameCharacters, characters]
        rfl
    · have call := setNext_exhausted holds (Nat.not_le.mp room)
      have beyond : start.words.length < reached + 1 := by
        rw [words, ← characters]
        exact Nat.not_le.mp (fun fits => room (within.mpr fits))
      refine ⟨{ s with generator := { s.generator with permuteStatus := true } },
        ⟨enabled, indices, characters, .inr ⟨rfl, beyond⟩⟩,
        .inr ⟨Nat.lt_succ_iff.mp beyond, ?_⟩⟩
      rw [nextUnit, call]
      exact if_neg (by decide)
  · refine ⟨s, ⟨enabled, indices, characters, .inr ⟨finished, by omega⟩⟩, .inr ⟨by omega, ?_⟩⟩
    rw [nextUnit, setNext_after_done enabled finished]
    exact if_neg (by decide)

section Later

variable {start : PwdState} {reached n : Nat} {made : Json}

/-- The state after `n` more calls. -/
theorem walked_after (walked : Walked start reached s)
    (nonempty : 0 < start.generator.characters.length) (n : Nat) :
    Walked start (reached + n) (createPwdPlugin.after^[n] s) := by
  induction n with
  | zero => exact walked
  | succ n ih =>
    rw [Function.iterate_succ_apply']
    obtain ⟨t, next_, ⟨word, made, -, call, -⟩ | ⟨-, call⟩⟩ := nextUnit_walked ih nonempty
    · rw [TestPlugin.after, show createPwdPlugin.nextUnit _ = _ from call]
      exact next_
    · rw [TestPlugin.after, show createPwdPlugin.nextUnit _ = _ from call]
      exact next_

theorem word_given (walked : Walked start reached s)
    (nonempty : 0 < start.generator.characters.length) {word : List Char}
    (found : start.words[reached + n]? = some word) :
    ∃ made, createPwdPlugin.Gives s n made ∧ password made = .ok (String.ofList word) := by
  obtain ⟨t, -, ⟨word', made, same, call, read⟩ | ⟨passed, -⟩⟩ :=
    nextUnit_walked (walked_after walked nonempty n) nonempty
  · cases same.symm.trans found
    exact ⟨made, ⟨t, call⟩, read⟩
  · have inside := (List.getElem?_eq_some_iff.mp found).1
    omega

/-- The enumeration has come to its end when next_unit gives nothing. -/
theorem passed_of_exhausted {t : PwdState} (walked : Walked start reached s)
    (nonempty : 0 < start.generator.characters.length)
    (call : createPwdPlugin.nextUnit (createPwdPlugin.after^[n] s) = .exhausted t) :
    start.words.length ≤ reached + n := by
  obtain ⟨u, -, ⟨word, made, -, call', -⟩ | ⟨passed, -⟩⟩ :=
    nextUnit_walked (walked_after walked nonempty n) nonempty
  · cases call'.symm.trans call
  · exact passed

end Later

end PwdState

/-- What PWD_Handler makes of a unit where libarchive is `libs n`. -/
def Handled (libs : Nat → LibArchive) (n : Nat) (work : WorkUnitMessage)
    (result : ResultMessage) : Prop :=
  ∃ what duration g, result = (PwdHandler.handle (libs n) what duration g work).1

/-! ## One word and one consumer, for runs on fixed inputs -/

/-- The unit of a word: its id and numbers, and the texts of its job. -/
def lonePwd (workUnitId : String) (seq number : Int) (named : workUnitId ≠ "")
    (small : toInt32 seq = seq) (word indicies spelled : String) : LoneUnit where
  testType := "PWD"
  workUnitId := workUnitId
  seq := seq
  field := ("task", .string "PWD")
  fields :=
    [("password", .string word), ("indicies", .string indicies), ("text", .string spelled),
      ("seq", .numberInteger number)]
  text :=
    "\x7b\"job\":\x7b\"indicies\":\"" ++ indicies ++ "\",\"password\":\"" ++ word ++
      "\",\"seq\":" ++ toString number ++ ",\"task\":\"PWD\",\"text\":\"" ++ spelled ++
      "\"\x7d,\"msg_type\":\"work_unit\",\"permutation\":\"\"," ++
      "\"producer_id\":\"prod-1\",\"seq\":" ++ toString seq ++
      ",\"source_file\":\"/data/source.bin\",\"test_type\":\"PWD\",\"timestamp\":\"\"," ++
      "\"work_unit_id\":\"" ++ workUnitId ++ "\"\x7d"
  named := named
  small := small

/-- An archive with this password. -/
def lonePwdArchive (password : String) : LibArchive where
  readNew := true
  openFilename _ _ := (archiveOk, "")
  nextHeader passphrase _ :=
    if passphrase = some password then (archiveOk, "") else (archiveRetry, "Incorrect passphrase")

def lonePwdResult (lone : LoneUnit) (password : String) : ResultMessage :=
  (PwdHandler.handle (lonePwdArchive password) (fun _ => "") 0 none lone.message).1

/-- The places of 9999999998, the last one first. -/
def lastPlaces : List Nat := [8, 9, 9, 9, 9, 9, 9, 9, 9, 9]

/-- The plugin with digits only, behind the word 9999999998. -/
def lastState : PwdState :=
  { PwdState.new with
    generator := { PwdNextUnit.new with
      testPwdLen := 10
      charIndicies := #v[60, 61, 61, 61, 61, 61, 61, 61, 61, 61]
      useNumeric := true
      useNone := false }
    useNumeric := true }

/-- What the producer is started with. -/
def pwdSetup : JobSetup := ⟨"prod-1", "PWD", "/data/source.bin", "", "sequential", 0⟩

def lastProducer : Producer PwdState := .started pwdSetup 2 lastState

def lastWord : LoneUnit :=
  lonePwd "prod-1-2" 2 1 (by decide) rfl "9999999999" "10,61,61,61,61,61,61,61,61,61,61"
    "10 chars 9,9,9,9,9,9,9,9,9,9"

def lastFinal (password : String) : Deployment PwdState :=
  LoneUnit.final createPwdPlugin lastWord lastProducer (lonePwdResult lastWord password)

theorem last_walked : PwdState.Walked lastState (position 10 lastPlaces) lastState := by
  refine ⟨rfl, rfl, rfl, .inl ⟨lastPlaces, ⟨rfl, rfl, ?_, by decide, ?_, rfl⟩, rfl⟩⟩
  · unfold Digits
    decide
  · unfold PwdNextUnit.Shows
    decide

theorem last_refused : DeploymentRun createPwdPlugin lastWord.consumers
    (Handled fun _ => lonePwdArchive "0") lastProducer
    (LoneUnit.events (lonePwdResult lastWord "0")) (lastFinal "0") :=
  LoneUnit.run_lone ⟨fun _ => "", 0, none, rfl⟩ (fun _ => PwdState.filled_of_offers) rfl rfl rfl
    rfl rfl rfl rfl rfl

theorem last_quiet (n : Nat) (link : Link) (present : (lastFinal "0").links n = some link) :
    link.Quiet (lastFinal "0").world n :=
  LoneUnit.quiet_lone rfl (fun _ => rfl) rfl rfl rfl rfl rfl rfl rfl n link present

/-- 9999999999 is the word that is left. -/
theorem last_left :
    lastState.words[position 10 lastPlaces + 0]? = some "9999999999".toList := by
  have size : lastState.generator.characters.length = 10 := rfl
  have place : position 10 (List.replicate 10 9) - 1 = position 10 lastPlaces + 0 := by decide
  have spelled := @shortlex_spell _ lastState.generator.characters (List.replicate 10 9)
    Source.maxPwdLen (by unfold Digits; decide) (by decide) (by decide)
  rw [size, place] at spelled
  exact spelled

end PnC.Source
