import PnC.Source.PwdWalk

/-!
# What startup makes of a PWD configuration

The values read from a config file that has all of them in their types, or leaves them
to the defaults.
-/
namespace PnC.Source

open PnC.Library PwdNextUnit

theorem PwdNextUnit.nodup_charAlphabet : ∀ la ua num na : Bool,
    (charAlphabet la ua num na).Nodup := by
  decide +kernel

structure PwdConfig where
  useLowerAlpha : Bool
  useUpperAlpha : Bool
  useNumeric : Bool
  useNonAlpha : Bool
  maxPasswordLength : Int
  startingPassword : String

theorem PwdState.startup_null (config : Option Json) :
    startup config .null = (configured config).mapError .fault := by
  rw [startup]
  cases configured config <;> rfl

namespace PwdConfig

/-- The six reads of startup succeed with these values. -/
structure ReadFrom (c : PwdConfig) (cfg : Json) : Prop where
  lowerAlpha : cfg.value "use_lower_alpha" false Json.getBool = .ok c.useLowerAlpha
  upperAlpha : cfg.value "use_upper_alpha" false Json.getBool = .ok c.useUpperAlpha
  numeric : cfg.value "use_numeric" false Json.getBool = .ok c.useNumeric
  nonAlpha : cfg.value "use_non_alpha" false Json.getBool = .ok c.useNonAlpha
  maxLength : cfg.value "max_password_length" 10 Json.getInt = .ok c.maxPasswordLength
  starting : cfg.value "starting_password" "" Json.getString = .ok c.startingPassword

/-- The characters of the enabled classes. -/
def characters (c : PwdConfig) : List Char :=
  charAlphabet c.useLowerAlpha c.useUpperAlpha c.useNumeric c.useNonAlpha

def SomeClass (c : PwdConfig) : Prop :=
  (c.useLowerAlpha || c.useUpperAlpha || c.useNumeric || c.useNonAlpha) = true

/-- The plugin in front of the look at starting_password. -/
def state (c : PwdConfig) : PwdState :=
  { PwdState.new with
    useLowerAlpha := c.useLowerAlpha
    useUpperAlpha := c.useUpperAlpha
    useNumeric := c.useNumeric
    useNonAlpha := c.useNonAlpha
    maxPwdLen := c.maxPasswordLength }.setUse

theorem configured_of_readFrom {c : PwdConfig} {cfg : Json} (reads : c.ReadFrom cfg) :
    PwdState.configured (some cfg) =
      if c.startingPassword = "" then .ok c.state
      else c.state.startFrom c.startingPassword.toUTF8.toList := by
  rw [PwdState.configured, PwdState.readConfig, reads.lowerAlpha]
  dsimp only
  rw [reads.upperAlpha]
  dsimp only
  rw [reads.numeric]
  dsimp only
  rw [reads.nonAlpha]
  dsimp only
  rw [reads.maxLength]
  dsimp only
  rw [reads.starting]
  rfl

/-- startup without a resume state. -/
theorem startup_of_readFrom {c : PwdConfig} {cfg : Json} (reads : c.ReadFrom cfg) :
    PwdState.startup (some cfg) .null =
      (if c.startingPassword = "" then .ok c.state
        else c.state.startFrom c.startingPassword.toUTF8.toList).mapError .fault := by
  rw [PwdState.startup_null, configured_of_readFrom reads]

theorem letters_pos {c : PwdConfig} (some_class : c.SomeClass) :
    0 < (indexAlphabet c.useLowerAlpha c.useUpperAlpha c.useNumeric c.useNonAlpha).length := by
  unfold SomeClass at some_class
  revert some_class
  cases c.useLowerAlpha <;> cases c.useUpperAlpha <;> cases c.useNumeric <;>
    cases c.useNonAlpha <;> decide

/-- It begins in front of the first word. -/
theorem walks_state {c : PwdConfig} (some_class : c.SomeClass) :
    Walks c.useLowerAlpha c.useUpperAlpha c.useNumeric c.useNonAlpha 0 c.state.generator := by
  refine ⟨letters_pos some_class, ⟨[], ?_, rfl⟩, rfl, rfl⟩
  refine ⟨?_, rfl, by simp [Digits], by simp, ?_, rfl⟩
  · change (!(c.useLowerAlpha || c.useUpperAlpha || c.useNumeric || c.useNonAlpha)) = false
    rw [some_class]
    rfl
  · intro i inside
    change (Vector.replicate maxPwdLen (-1 : Int))[i] = _
    simp [shown_none]

end PwdConfig

end PnC.Source
