import PnC.Source.BenchPlugin
import PnC.Source.EchoPlugin
import PnC.Source.ProducerRun
import PnC.Source.PwdPlugin

/-!
# Starting a producer, also from a checkpoint

load_checkpoint and init_plugin, for each of the three plugins, and the states with
which a producer of a given configuration can begin.
-/
namespace PnC.Source

open PnC.Library

/-- test_type with what the plugin's config file and the source file hold. A config
file that is missing or does not parse is none. -/
inductive PluginConfig where
  | pwd (config : Option Json)
  | bench (config : Option Json) (sourceFile : Option (List UInt8))
  | echo (config : Option Json)

/-- A plugin with the startup that its configuration fixes. -/
structure LoadedPlugin where
  State : Type
  plugin : TestPlugin State
  startup : (resumeState : Json) → Except StartupFailure State

/-- init_plugin; BENCH is given its source file after startup. -/
def initPlugin : PluginConfig → LoadedPlugin
  | .pwd config => ⟨PwdState, createPwdPlugin, PwdState.startup config⟩
  | .bench config sourceFile =>
    ⟨BenchState, createBenchPlugin, fun resumeState => do
      let s ← BenchState.startup config resumeState
      s.givenSource sourceFile⟩
  | .echo config => ⟨EchoState, createEchoPlugin, EchoState.startup config⟩

namespace LoadedPlugin

variable (loaded : LoadedPlugin)

/-- load_checkpoint and init_plugin under --resume. -/
def resume (dir : CheckpointDir) (job : JobSetup) :
    Except StartupFailure (Producer loaded.State) :=
  match dir.load with
  | some state =>
    (loaded.startup (state.pluginState.getD .null)).map
      (Producer.started job (state.lastCompletedSeq + 1))
  | none => (loaded.startup .null).map (Producer.started job 0)

/-- A producer that is resumed begins with the number after the one it read. -/
theorem started_of_resume {loaded : LoadedPlugin} {dir : CheckpointDir}
    {state : CheckpointState} {job : JobSetup} {q : Producer loaded.State}
    (loads : dir.load = some state) (resumed : loaded.resume dir job = .ok q) :
    q = .started job (state.lastCompletedSeq + 1) q.plugin := by
  unfold LoadedPlugin.resume at resumed
  rw [loads] at resumed
  dsimp only at resumed
  cases started : loaded.startup (state.pluginState.getD .null) with
  | error failure =>
    rw [started] at resumed
    cases resumed
  | ok plugin =>
    rw [started] at resumed
    cases resumed
    rfl

/-- write_final_checkpoint -/
def writeFinalCheckpoint (dir : CheckpointDir) (p : Producer loaded.State) (now : String) :
    CheckpointDir :=
  dir.save (p.checkpointState loaded.plugin now)

/-- The plugin states that a producer begins with: a new one, or one resumed from the
final checkpoint of a run that began with such a state. -/
inductive Begun : loaded.State → Prop where
  | fresh {state : loaded.State} (started : loaded.startup .null = .ok state) : Begun state
  | resumed {state : loaded.State} {job job' : JobSetup} {nextSeq : Int} {events : List Event}
      {w : World loaded.State} {dir : CheckpointDir} {now : String} {q : Producer loaded.State}
      (earlier : Begun state)
      (reached : (producerSystem loaded.plugin).run
        (World.listening (.started job nextSeq state)) events = some w)
      (again : loaded.resume (loaded.writeFinalCheckpoint dir w.producer now) job' = .ok q) :
      Begun q.plugin

end LoadedPlugin

/-- The units sent while the requests are served one after the other. -/
def Producer.serve {σ : Type} (plugin : TestPlugin σ) (timestamp : Nat → String) :
    List WorkRequestMessage → Producer σ → List WorkUnitMessage
  | [], _ => []
  | req :: rest, p =>
    let d := p.handleWorkRequest plugin ⟨timestamp, fun _ => true⟩ req
    d.sent ++ serve plugin timestamp rest d.producer

/-- The producer behind these requests. -/
def Producer.afterServing {σ : Type} (plugin : TestPlugin σ) (timestamp : Nat → String) :
    List WorkRequestMessage → Producer σ → Producer σ
  | [], p => p
  | req :: rest, p =>
    afterServing plugin timestamp rest
      (p.handleWorkRequest plugin ⟨timestamp, fun _ => true⟩ req).producer

end PnC.Source
