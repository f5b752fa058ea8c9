import PnC.Source.ConsumerRun
import PnC.Source.PoolAccounting

/-!
# What a step of the consumer changes
-/
namespace PnC.Source

open PnC.Library

/-- The unit that the receiver is about to push. -/
def ReceiverPhase.accepted : ReceiverPhase → Option WorkUnitMessage
  | .submitting work => some work
  | _ => none

inductive ConsumerStep (config : ConsumerConfig) (s : Consumer) :
    ConsumerEvent → Consumer → Prop where
  /-- the loop condition, a frame that carries no first unit, the end of the loop, and the
  first statement of shutdown -/
  | quiet (event : ConsumerEvent) (running : Bool) (r : Receiver) (phase : ReceiverPhase) :
      phase.accepted = s.phase.accepted → (r.fileReady = s.receiver.fileReady) →
      (∀ inner, event ≠ .pool inner) → event ≠ .push → event ≠ .check →
      ConsumerStep config s event { s with running := running, receiver := r, phase := phase }
  | first (bytes : List UInt8) (fs : FileSystem) (server : FileServer) (r : Receiver)
      (work : WorkUnitMessage) :
      s.phase = .receiving → s.receiver.fileReady = false → r.fileReady = true →
      ConsumerStep config s (.frame bytes fs server)
        { s with
          receiver := r
          phase := .submitting (r.pointTo work)
          pool := some (.start config.poolSize .new) }
  | fresh (work : WorkUnitMessage) (pool : ThreadPool Captured) :
      s.phase = .checking work → s.pool = some pool →
      pool.shared.captured.completed.isCompleted work.workUnitId = false →
      ConsumerStep config s .check { s with phase := .submitting (s.receiver.pointTo work) }
  | repeated (work : WorkUnitMessage) (pool : ThreadPool Captured) :
      s.phase = .checking work → s.pool = some pool →
      pool.shared.captured.completed.isCompleted work.workUnitId = true →
      ConsumerStep config s .check { s with phase := .answering work }
  | answer (timestamp : String) (work : WorkUnitMessage) (pool : ThreadPool Captured)
      (note : ResultMessage) : s.phase = .answering work → s.pool = some pool →
      ConsumerStep config s (.answer timestamp)
        { s with
          phase := .atLoop
          pool := some (Consumer.capture pool (Captured.sendResult note)) }
  | push (work : WorkUnitMessage) (pool after : ThreadPool Captured) :
      s.phase = .submitting work → s.pool = some pool →
      (poolSystem config.pool).step pool (.submit work) = some after →
      ConsumerStep config s .push { s with phase := .atLoop, pool := some after }
  | pool (event : PoolEvent) (pool after : ThreadPool Captured) :
      s.pool = some pool → s.allows pool event = true →
      (poolSystem config.pool).step pool event = some after →
      ConsumerStep config s (.pool event)
        { s with
          pool := some after
          failing := Consumer.returnedPending pool after s.failing }
  | fail (timestamp : String) (work : WorkUnitMessage) (rest : List WorkUnitMessage)
      (pool : ThreadPool Captured) (failure : ResultMessage) :
      s.failing = work :: rest → s.pool = some pool →
      ConsumerStep config s (.fail timestamp)
        { s with
          pool := some (Consumer.capture pool (Captured.sendResult failure))
          failing := rest
          failed := s.failed ++ [work] }

namespace Consumer

variable {config : ConsumerConfig} {s t : Consumer}

theorem frame_steps {bytes : List UInt8} {fs : FileSystem} {server : FileServer}
    (taken : s.stepReceiver config (.frame bytes fs server) = some t) :
    ConsumerStep config s (.frame bytes fs server) t := by
  simp only [stepReceiver] at taken
  split at taken
  next standing =>
    have none_ : s.phase.accepted = none := by rw [standing]; rfl
    have quiet (r : Receiver) (phase : ReceiverPhase) (kept : phase.accepted = none)
        (ready : r.fileReady = s.receiver.fileReady) :
        ConsumerStep config s (.frame bytes fs server)
          { s with running := s.running, receiver := r, phase := phase } :=
      .quiet _ s.running r phase (kept.trans none_.symm) ready (fun _ h => by cases h)
        (fun h => by cases h) (fun h => by cases h)
    cases passed : s.receiver.pass config.receiver bytes fs server with
    | mk r reached =>
      have ready := Receiver.pass_fileReady passed
      rw [passed] at taken
      cases reached with
      | continues | breaks =>
        cases taken
        exact quiet r _ rfl ready
      | exits code => cases taken
      | first work =>
        cases taken
        exact .first bytes fs server r work standing ready.1 ready.2
      | check work =>
        cases taken
        exact quiet r _ rfl (ready.2.trans ready.1.symm)
  next => cases taken

theorem consumer_steps {event : ConsumerEvent}
    (taken : (consumerSystem config).step s event = some t) : ConsumerStep config s event t := by
  cases event with
  | loopTest =>
    simp only [consumerSystem, stepReceiver] at taken
    split at taken
    next standing =>
      cases taken
      refine .quiet _ s.running s.receiver _ ?_ rfl (fun _ h => by cases h) (fun h => by cases h)
        (fun h => by cases h)
      rw [standing]
      split <;> rfl
    next => cases taken
  | frame bytes fs server => exact frame_steps taken
  | recvFails =>
    simp only [consumerSystem, stepReceiver] at taken
    split at taken
    next standing =>
      cases taken
      refine .quiet _ s.running s.receiver _ ?_ rfl (fun _ h => by cases h) (fun h => by cases h)
        (fun h => by cases h)
      rw [standing]
      rfl
    next => cases taken
  | check =>
    simp only [consumerSystem, stepReceiver] at taken
    split at taken
    next work pool standing present =>
      cases taken
      split
      next completed => exact .repeated work pool standing present completed
      next missing => exact .fresh work pool standing present (Bool.eq_false_iff.mpr missing)
    next => cases taken
  | answer timestamp =>
    simp only [consumerSystem, stepReceiver] at taken
    split at taken
    next work pool standing present =>
      cases taken
      exact .answer timestamp work pool _ standing present
    next => cases taken
  | push =>
    simp only [consumerSystem, stepReceiver] at taken
    split at taken
    next work pool standing present =>
      obtain ⟨after, pushed, rfl⟩ := Option.map_eq_some_iff.mp taken
      exact .push work pool after standing present pushed
    next => cases taken
  | pool event =>
    simp only [consumerSystem] at taken
    split at taken
    next => cases taken
    next pool present =>
      split at taken
      next allowed =>
        obtain ⟨after, step, rfl⟩ := Option.map_eq_some_iff.mp taken
        exact .pool event pool after present allowed step
      next => cases taken
  | stop =>
    cases taken
    exact .quiet _ false s.receiver s.phase rfl rfl (fun _ h => by cases h) (fun h => by cases h)
      (fun h => by cases h)
  | fail timestamp =>
    simp only [consumerSystem] at taken
    split at taken
    next work rest pool failing present =>
      cases taken
      exact .fail timestamp work rest pool _ failing present
    next => cases taken

/-! ## A run up to the first unit, for runs on fixed inputs -/

/-- One worker. -/
def smallConsumer : ConsumerConfig := ⟨localReceiver, true, 1⟩

def unitFrame : ConsumerEvent := .frame (Path.ofString unitText) sharedFiles noServer

/-- The first unit goes into the started pool. -/
def afterFirst : Consumer where
  running := true
  receiver := readyReceiver
  phase := .submitting (.named "u-1")
  pool := some (.start 1 .new)
  failing := []
  failed := []

theorem step_unitFrame :
    (consumerSystem smallConsumer).step { start with phase := .receiving } unitFrame =
      some afterFirst := by
  simp only [unitFrame, consumerSystem, stepReceiver]
  rw [show start.receiver.pass smallConsumer.receiver (Path.ofString unitText) sharedFiles
    noServer = (readyReceiver, .first (.named "u-1")) from pass_unitText_first]
  rfl

theorem step_unitFrame_ready {s : Consumer} (standing : s.phase = .receiving)
    (ready : s.receiver = readyReceiver) :
    (consumerSystem smallConsumer).step s unitFrame =
      some { s with
        receiver := readyReceiver.count (.named "u-1")
        phase := .checking (.named "u-1") } := by
  simp only [unitFrame, consumerSystem, stepReceiver, standing, ready]
  rw [show readyReceiver.pass smallConsumer.receiver (Path.ofString unitText) sharedFiles
    noServer = (readyReceiver.count (.named "u-1"), .check (.named "u-1")) from
      pass_unitText_ready]

theorem run_first (rest : List ConsumerEvent) :
    (consumerSystem smallConsumer).run start (.loopTest :: unitFrame :: rest) =
      (consumerSystem smallConsumer).run afterFirst rest := by
  rw [TransitionSystem.run_cons,
    show (consumerSystem smallConsumer).step start .loopTest =
      some { start with phase := .receiving } from rfl,
    Option.bind_some, TransitionSystem.run_cons, step_unitFrame, Option.bind_some]

/-- The same unit comes again at once. -/
def afterSecond : Consumer :=
  { afterFirst with
    receiver := readyReceiver.count (.named "u-1")
    phase := .checking (.named "u-1")
    pool := ((poolSystem smallConsumer.pool).step (.start 1 .new) (.submit (.named "u-1"))) }

theorem run_second (rest : List ConsumerEvent) :
    (consumerSystem smallConsumer).run start
        (.loopTest :: unitFrame :: .push :: .loopTest :: unitFrame :: rest) =
      (consumerSystem smallConsumer).run afterSecond rest := by
  have back : (consumerSystem smallConsumer).run afterFirst [.push, .loopTest] =
      some { afterSecond with receiver := readyReceiver, phase := .receiving } := rfl
  rw [run_first, show ConsumerEvent.push :: .loopTest :: unitFrame :: rest =
    [.push, .loopTest] ++ unitFrame :: rest from rfl, TransitionSystem.run_append, back,
    Option.bind_some, TransitionSystem.run_cons, step_unitFrame_ready rfl rfl, Option.bind_some]
  rfl

theorem along_first {p : Consumer → ConsumerEvent → Consumer → Prop} (rest : List ConsumerEvent) :
    (consumerSystem smallConsumer).Along p start (.loopTest :: unitFrame :: rest) ↔
      p start .loopTest { start with phase := .receiving } ∧
        p { start with phase := .receiving } unitFrame afterFirst ∧
          (consumerSystem smallConsumer).Along p afterFirst rest := by
  rw [TransitionSystem.along_cons (t := { start with phase := .receiving }) rfl,
    TransitionSystem.along_cons step_unitFrame]

end Consumer

end PnC.Source
