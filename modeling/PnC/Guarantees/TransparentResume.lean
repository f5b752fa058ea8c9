import PnC.Source.ResumedProducer

/-!
# Plugins that are resumed

A plugin that startup has restored from a checkpoint answers every further call as the
plugin that wrote the checkpoint does: its state is that plugin's state. The checkpoint
travels as the plugin_state of a CheckpointState, which from_json hands back as it is.
-/
namespace PnC.Guarantees.TransparentResume

open PnC.Source

/-- What a call of next_unit shows its caller. -/
inductive Answer where
  | unit (job : Json)
  | exhausted
  | threw (what : Exception)
  | stuck (fault : Fault)

def answer {σ : Type} (plugin : TestPlugin σ) (s : σ) : Answer :=
  match plugin.nextUnit s with
  | .unit _ job => .unit job
  | .exhausted _ => .exhausted
  | .threw _ what => .threw what
  | .stuck fault => .stuck fault

/-- The answers of the next `count` calls. -/
def answers {σ : Type} (plugin : TestPlugin σ) : (count : Nat) → σ → List Answer
  | 0, _ => []
  | count + 1, s => answer plugin s :: answers plugin count (plugin.after s)

/-- The exit_conditions of the plugin of a configuration. PWD's looks at two flags of
its module, which next_unit, checkpoint and startup leave alone. -/
def exitConditions (passwordFound fileError : Bool) :
    (config : PluginConfig) → (initPlugin config).State → Bool
  | .pwd _, _ => passwordFound || fileError
  | .bench _ _, s => createBenchPlugin.exitConditions s
  | .echo _, s => createEchoPlugin.exitConditions s

/-- The checkpoint of `s`, read back as the plugin_state of `saved`, starts a plugin
that goes on as `s` does for `count` calls. -/
def ResumesAs (config : PluginConfig) (saved : CheckpointState) (s : (initPlugin config).State)
    (count : Nat) : Prop :=
  ∃ read resumed,
    CheckpointState.fromJson
        { saved with pluginState := some ((initPlugin config).plugin.checkpoint s) }.toJson =
      .ok read ∧
    (initPlugin config).startup (read.pluginState.getD .null) = .ok resumed ∧
    answers (initPlugin config).plugin count resumed = answers (initPlugin config).plugin count s ∧
    ∀ passwordFound fileError, ∀ calls ≤ count,
      exitConditions passwordFound fileError config
          ((initPlugin config).plugin.after^[calls] resumed) =
        exitConditions passwordFound fileError config ((initPlugin config).plugin.after^[calls] s)

/-- The plugin state is not touched on its way through the file. -/
theorem read_pluginState (saved : CheckpointState) (state : Json) :
    ∃ read, CheckpointState.fromJson { saved with pluginState := some state }.toJson = .ok read ∧
      read.pluginState = some state :=
  ⟨_, CheckpointState.fromJson_toJson _, rfl⟩

/-- Each of the plugins, in every configuration on which startup returns and after any
number of calls, is resumed from its checkpoint without a difference that any number
of further calls shows. -/
theorem resume_transparent (config : PluginConfig) (fresh : (initPlugin config).State)
    (started : (initPlugin config).startup .null = .ok fresh) (saved : CheckpointState)
    (n m : Nat) : ResumesAs config saved ((initPlugin config).plugin.after^[n] fresh) m := by
  obtain ⟨inv, resumable⟩ := initPlugin_resumable config
  have holds := TestPlugin.inv_iterate resumable.after (resumable.fresh fresh started) n
  obtain ⟨read, back, state⟩ := read_pluginState saved
    ((initPlugin config).plugin.checkpoint ((initPlugin config).plugin.after^[n] fresh))
  refine ⟨read, _, back, ?_, rfl, fun _ _ _ _ => rfl⟩
  rw [state]
  exact resumable.restore _ holds

/-- PWD with lower-case letters from "ab" on. -/
def lowerFromAb : PluginConfig :=
  .pwd (some (.object [("use_lower_alpha", .boolean true),
    ("starting_password", .string "ab")]))

/-- A state to carry the plugin state in. -/
def emptyCheckpoint : CheckpointState :=
  ⟨"", "", "", 0, 0, -1, "", 0, 0, 0, "", [], none⟩

theorem resume_transparent_lower_from_ab :
    ∃ fresh, (initPlugin lowerFromAb).startup .null = .ok fresh ∧
      ResumesAs lowerFromAb emptyCheckpoint ((initPlugin lowerFromAb).plugin.after^[3] fresh)
        5 := by
  have returns : ((initPlugin lowerFromAb).startup .null).isOk = true := by decide +kernel
  cases started : (initPlugin lowerFromAb).startup .null with
  | error failure =>
    rw [started] at returns
    cases returns
  | ok fresh => exact ⟨fresh, rfl, resume_transparent lowerFromAb fresh started emptyCheckpoint 3 5⟩

end PnC.Guarantees.TransparentResume
