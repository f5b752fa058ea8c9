import PnC.Guarantees.ShutdownProgress

/-!
# The shutdown of a consumer ends

Once shutdown has begun, every run of the consumer comes to one of three ends, in whatever
order its threads take their steps and whatever the handlers return: shutdown has joined its
threads and returns; the download for the first unit ends the process, with exit code 3 and
before there is a pool; or a stop signal has ended all workers while the receiver waits for
room in a full queue, and shutdown waits for the receiver for ever. Every call of a handler, of
send and of recv returns here.
-/
namespace PnC.Guarantees.ShutdownCompletes

open PnC.Library PnC.Source ShutdownProgress

/-! ## The process -/

variable {config : ConsumerConfig} {s t : ConsumerProcess} {event : ProcessEvent}

/-- The download for the first unit has ended the process, before there was a pool. -/
def Exited (t : ConsumerProcess) : Prop := t.exited = some 3 ∧ t.consumer.pool = none

/-- Shutdown has joined its threads. -/
def Joined (t : ConsumerProcess) : Prop := t.heartbeat = .left ∧ Finished t.consumer

structure Sound (s : ConsumerProcess) : Prop where
  wired : Wired s.consumer
  exited : s.exited ≠ none → Exited s

theorem sound_start : Sound .start := ⟨wired_start, fun some_ => absurd rfl some_⟩

theorem sound_step (sound : Sound s) (taken : (processSystem config).step s event = some t) :
    Sound t := by
  cases process_steps taken with
  | consumer event c alive joined step =>
    exact ⟨wired_step sound.wired step, fun some_ => absurd alive some_⟩
  | exits bytes fs server alive first =>
    refine ⟨sound.wired, fun _ => ⟨rfl, ?_⟩⟩
    rw [← Option.isNone_iff_eq_none, ← Option.not_isSome, sound.wired.ready, first]
    rfl
  | heartbeat sent phase alive next => exact ⟨sound.wired, sound.exited⟩

theorem stopped_process (stopped : s.consumer.running = false)
    (taken : (processSystem config).step s event = some t) : t.consumer.running = false := by
  cases process_steps taken with
  | consumer event c alive joined step => exact stopped_step stopped step
  | exits bytes fs server alive first => exact stopped
  | heartbeat sent phase alive next => exact stopped

/-- The steps that the heartbeat thread takes at most once shutdown has begun. -/
def heartbeatRank : HeartbeatPhase → Nat
  | .left => 0
  | .atLoop | .sleeping => 1
  | .sending => 2

def aliveRank : Option Nat → Nat
  | none => 1
  | some _ => 0

def processMeasure (s : ConsumerProcess) : Nat ×ₗ Nat ×ₗ Nat ×ₗ Nat ×ₗ Nat ×ₗ Nat :=
  toLex (aliveRank s.exited, toLex (heartbeatRank s.heartbeat, measure s.consumer))

/-- `Fresh` of the steps of the consumer. -/
def Unrepeated (s : ConsumerProcess) : ProcessEvent → Prop
  | .consumer event => Fresh s.consumer event
  | _ => True

theorem heartbeat_lowers {sent : Bool} {before after : HeartbeatPhase}
    (next : ConsumerProcess.nextHeartbeat false sent before = some after) :
    heartbeatRank after < heartbeatRank before := by
  cases before with
  | atLoop | sleeping =>
    cases next
    decide
  | sending =>
    cases next
    cases sent <;> decide
  | left => cases next

theorem process_lowers (stopped : s.consumer.running = false) (fresh : Unrepeated s event)
    (taken : (processSystem config).step s event = some t) :
    processMeasure t < processMeasure s := by
  cases process_steps taken with
  | consumer event c alive joined step =>
    exact Prod.Lex.toLex_lt_toLex.mpr (.inr ⟨rfl, Prod.Lex.toLex_lt_toLex.mpr
      (.inr ⟨rfl, measure_lowers stopped fresh step⟩)⟩)
  | exits bytes fs server alive first =>
    refine Prod.Lex.toLex_lt_toLex.mpr (.inl ?_)
    rw [alive]
    exact Nat.one_pos
  | heartbeat sent phase alive next =>
    rw [stopped] at next
    exact Prod.Lex.toLex_lt_toLex.mpr (.inr ⟨rfl, Prod.Lex.toLex_lt_toLex.mpr
      (.inl (heartbeat_lowers next))⟩)

/-- `isSignal` of the steps of the consumer. -/
def signals : ProcessEvent → Bool
  | .consumer event => isSignal event
  | _ => false

theorem unrepeated_of_not_signal (own : signals event = false) : Unrepeated s event := by
  cases event with
  | consumer event => exact fresh_of_not_signal own
  | exits bytes fs server => trivial
  | heartbeat sent => trivial

/-- A heartbeat thread that has not ended can go on; behind its end the consumer can. -/
theorem process_progress (sound : Sound s) (stopped : s.consumer.running = false) :
    (Exited s ∨ Joined s ∨ Hung s.consumer) ∨
      ∃ e t, signals e = false ∧ (processSystem config).step s e = some t := by
  cases alive : s.exited with
  | some code => exact .inl (.inl (sound.exited (by simp [alive])))
  | none =>
    by_cases left : s.heartbeat = .left
    · obtain (done | hung) | ⟨e, c, own, step⟩ := @progress config s.consumer sound.wired stopped
      · exact .inl (.inr (.inl ⟨left, done⟩))
      · exact .inl (.inr (.inr hung))
      · refine .inr ⟨.consumer e, _, own, step_consumer alive ?_ step⟩
        unfold ConsumerProcess.joined
        split
        · exact decide_eq_true left
        · rfl
    · obtain ⟨t, step⟩ := @step_heartbeat config s alive left
      exact .inr ⟨.heartbeat true, t, rfl, step⟩

theorem sound_run {events : List ProcessEvent}
    (replay : (processSystem config).run .start events = some s) : Sound s :=
  TransitionSystem.run_preserves Sound (fun _ _ _ sound taken => sound_step sound taken)
    sound_start replay

/-- Whatever has happened before, and in every order of steps, a consumer that has begun its
shutdown is ended by its download, joins its threads or hangs. -/
theorem shutdown_ends (config : ConsumerConfig) (events : List ProcessEvent)
    (s : ConsumerProcess) (replay : (processSystem config).run .start events = some s)
    (stopped : s.consumer.running = false) :
    (processSystem config).Inevitable Unrepeated
      (fun t => Exited t ∨ Joined t ∨ Hung t.consumer) s := by
  have preserved (s : ConsumerProcess) (e : ProcessEvent) (t : ConsumerProcess)
      (here : Sound s ∧ s.consumer.running = false) (_ : Unrepeated s e)
      (taken : (processSystem config).step s e = some t) :
      Sound t ∧ t.consumer.running = false :=
    ⟨sound_step here.1 taken, stopped_process here.2 taken⟩
  have moves (s : ConsumerProcess) (here : Sound s ∧ s.consumer.running = false) :
      (Exited s ∨ Joined s ∨ Hung s.consumer) ∨
        ∃ e t, Unrepeated s e ∧ (processSystem config).step s e = some t := by
    obtain done | ⟨e, t, own, taken⟩ := @process_progress config s here.1 here.2
    · exact .inl done
    · exact .inr ⟨e, t, unrepeated_of_not_signal own, taken⟩
  exact TransitionSystem.inevitable_of_measure processMeasure preserved moves
    (fun s e t here fresh taken => process_lowers here.2 fresh taken) ⟨sound_run replay, stopped⟩

/-- Shutdown begins while the receiver is in front of the push of its first unit, and the
heartbeat thread in its send. -/
def loneStop : List ProcessEvent :=
  [.heartbeat true, .heartbeat true, .consumer .loopTest,
    .consumer (.frame (Path.ofString loneEcho.text) sharedFiles noServer), .consumer .stop]

def loneStopped : ConsumerProcess := ⟨{ loneEcho.arrived with running := false }, .sending, none⟩

theorem run_loneStop :
    (processSystem (loneEcho.consumers 0).config).run .start loneStop = some loneStopped := by
  have frame : (processSystem (loneEcho.consumers 0).config).step
      ⟨{ Consumer.start with phase := .receiving }, .sending, none⟩
      (.consumer (.frame (Path.ofString loneEcho.text) sharedFiles noServer)) =
        some ⟨loneEcho.arrived, .sending, none⟩ :=
    step_consumer rfl rfl (LoneUnit.step_lone _)
  exact TransitionSystem.run_after rfl (TransitionSystem.run_after rfl
    (TransitionSystem.run_after rfl (TransitionSystem.run_after frame rfl)))

theorem lone_shutdown_ends : (processSystem (loneEcho.consumers 0).config).Inevitable Unrepeated
    (fun t => Exited t ∨ Joined t ∨ Hung t.consumer) loneStopped :=
  shutdown_ends (loneEcho.consumers 0).config loneStop loneStopped run_loneStop rfl

/-! ## Without a stop signal -/

theorem unstopped_process (size : config.poolSize ≠ 0) (unstopped : Unstopped s.consumer)
    (unsignalled : event ≠ .consumer (.pool .requestStop))
    (taken : (processSystem config).step s event = some t) : Unstopped t.consumer := by
  cases process_steps taken with
  | consumer event c alive joined step =>
    exact unstopped_step size unstopped (fun same => unsignalled (same ▸ rfl)) step
  | exits bytes fs server alive first => exact unstopped
  | heartbeat sent phase alive next => exact unstopped

/-- A consumer that stops by itself, without a signal, always comes to its end: the download
for its first unit ends the process, or all its threads have been joined and every unit that
was pending has been returned. -/
theorem unsignalled_shutdown_finishes (config : ConsumerConfig) (size : config.poolSize ≠ 0)
    (events : List ProcessEvent) (s : ConsumerProcess)
    (replay : (processSystem config).run .start events = some s)
    (unsignalled : .consumer (.pool .requestStop) ∉ events)
    (stopped : s.consumer.running = false) :
    (processSystem config).Inevitable (fun _ e => signals e = false)
      (fun t => Exited t ∨ Joined t) s := by
  have unstopped : Unstopped s.consumer :=
    TransitionSystem.run_invariant (fun s : ConsumerProcess => Unstopped s.consumer)
      (fun _ _ _ here own taken => unstopped_process size here own taken)
      (show Unstopped ConsumerProcess.start.consumer from nofun)
      (TransitionSystem.along_of_mem fun event member same => unsignalled (same ▸ member)) replay
  have preserved (s : ConsumerProcess) (e : ProcessEvent) (t : ConsumerProcess)
      (here : (Sound s ∧ s.consumer.running = false) ∧ Unstopped s.consumer)
      (own : signals e = false) (taken : (processSystem config).step s e = some t) :
      (Sound t ∧ t.consumer.running = false) ∧ Unstopped t.consumer :=
    ⟨⟨sound_step here.1.1 taken, stopped_process here.1.2 taken⟩,
      unstopped_process size here.2 (fun same => by subst same; cases own) taken⟩
  have moves (s : ConsumerProcess)
      (here : (Sound s ∧ s.consumer.running = false) ∧ Unstopped s.consumer) :
      (Exited s ∨ Joined s) ∨
        ∃ e t, signals e = false ∧ (processSystem config).step s e = some t := by
    obtain (exited | joined | hung) | moves := @process_progress config s here.1.1 here.1.2
    · exact .inl (.inl exited)
    · exact .inl (.inr joined)
    · exact absurd hung (not_hung here.1.1.wired here.2)
    · exact .inr moves
  exact TransitionSystem.inevitable_of_measure processMeasure preserved moves
    (fun s e t here own taken => process_lowers here.1.2 (unrepeated_of_not_signal own) taken)
    ⟨⟨sound_run replay, stopped⟩, unstopped⟩

theorem lone_shutdown_finishes : (processSystem (loneEcho.consumers 0).config).Inevitable
    (fun _ e => signals e = false) (fun t => Exited t ∨ Joined t) loneStopped :=
  unsignalled_shutdown_finishes (loneEcho.consumers 0).config (by decide) loneStop loneStopped
    run_loneStop (by simp [loneStop]) rfl

end PnC.Guarantees.ShutdownCompletes
