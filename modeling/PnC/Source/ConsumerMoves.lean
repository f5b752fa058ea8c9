import PnC.Source.ConsumerRun

/-!
# The steps of the consumer, one by one

What each event does to the consumer, with the message it sends.
-/
namespace PnC.Source

open PnC.Library

inductive ConsumerMove (config : ConsumerConfig) (s : Consumer) :
    ConsumerEvent → Consumer → Prop where
  | loopTest : s.phase = .atLoop →
      ConsumerMove config s .loopTest
        { s with phase := if s.running then .receiving else .left }
  | ignored (bytes : List UInt8) (fs : FileSystem) (server : FileServer) (r : Receiver) :
      s.phase = .receiving →
      s.receiver.pass config.receiver bytes fs server = (r, .continues) →
      ConsumerMove config s (.frame bytes fs server) { s with receiver := r, phase := .atLoop }
  | threw (bytes : List UInt8) (fs : FileSystem) (server : FileServer) (r : Receiver)
      (what : Exception) : s.phase = .receiving →
      s.receiver.pass config.receiver bytes fs server = (r, .breaks what) →
      ConsumerMove config s (.frame bytes fs server) { s with receiver := r, phase := .left }
  | first (bytes : List UInt8) (fs : FileSystem) (server : FileServer) (r : Receiver)
      (work : WorkUnitMessage) : s.phase = .receiving →
      s.receiver.pass config.receiver bytes fs server = (r, .first work) →
      ConsumerMove config s (.frame bytes fs server)
        { s with
          receiver := r
          phase := .submitting (r.pointTo work)
          pool := some (.start config.poolSize .new) }
  | checks (bytes : List UInt8) (fs : FileSystem) (server : FileServer) (r : Receiver)
      (work : WorkUnitMessage) : s.phase = .receiving →
      s.receiver.pass config.receiver bytes fs server = (r, .check work) →
      ConsumerMove config s (.frame bytes fs server)
        { s with receiver := r, phase := .checking work }
  | recvFails : s.phase = .receiving → ConsumerMove config s .recvFails { s with phase := .left }
  | fresh (work : WorkUnitMessage) (pool : ThreadPool Captured) :
      s.phase = .checking work → s.pool = some pool →
      pool.shared.captured.completed.isCompleted work.workUnitId = false →
      ConsumerMove config s .check { s with phase := .submitting (s.receiver.pointTo work) }
  | repeated (work : WorkUnitMessage) (pool : ThreadPool Captured) :
      s.phase = .checking work → s.pool = some pool →
      pool.shared.captured.completed.isCompleted work.workUnitId = true →
      ConsumerMove config s .check { s with phase := .answering work }
  | answer (timestamp : String) (work : WorkUnitMessage) (pool : ThreadPool Captured) :
      s.phase = .answering work → s.pool = some pool →
      ConsumerMove config s (.answer timestamp)
        { s with
          phase := .atLoop
          pool := some (Consumer.capture pool (Captured.sendResult
            (Receiver.duplicateNote config.receiver.consumerId timestamp work))) }
  | push (work : WorkUnitMessage) (pool after : ThreadPool Captured) :
      s.phase = .submitting work → s.pool = some pool →
      (poolSystem config.pool).step pool (.submit work) = some after →
      ConsumerMove config s .push { s with phase := .atLoop, pool := some after }
  | pool (event : PoolEvent) (pool after : ThreadPool Captured) :
      s.pool = some pool → s.allows pool event = true →
      (poolSystem config.pool).step pool event = some after →
      ConsumerMove config s (.pool event)
        { s with
          pool := some after
          failing := Consumer.returnedPending pool after s.failing }
  | stop : ConsumerMove config s .stop { s with running := false }
  | fail (timestamp : String) (work : WorkUnitMessage) (rest : List WorkUnitMessage)
      (pool : ThreadPool Captured) : s.failing = work :: rest → s.pool = some pool →
      ConsumerMove config s (.fail timestamp)
        { s with
          pool := some (Consumer.capture pool (Captured.sendResult
            (Consumer.shutdownFailure config.receiver.consumerId timestamp work)))
          failing := rest
          failed := s.failed ++ [work] }

theorem consumer_moves {config : ConsumerConfig} {s t : Consumer} {event : ConsumerEvent}
    (taken : (consumerSystem config).step s event = some t) : ConsumerMove config s event t := by
  cases event with
  | loopTest =>
    simp only [consumerSystem, Consumer.stepReceiver] at taken
    split at taken
    next standing =>
      cases taken
      exact .loopTest standing
    next => cases taken
  | frame bytes fs server =>
    simp only [consumerSystem, Consumer.stepReceiver] at taken
    split at taken
    next standing =>
      split at taken
      next r passed =>
        cases taken
        exact .ignored bytes fs server r standing passed
      next r what passed =>
        cases taken
        exact .threw bytes fs server r what standing passed
      next => cases taken
      next r work passed =>
        cases taken
        exact .first bytes fs server r work standing passed
      next r work passed =>
        cases taken
        exact .checks bytes fs server r work standing passed
    next => cases taken
  | recvFails =>
    simp only [consumerSystem, Consumer.stepReceiver] at taken
    split at taken
    next standing =>
      cases taken
      exact .recvFails standing
    next => cases taken
  | check =>
    simp only [consumerSystem, Consumer.stepReceiver] at taken
    split at taken
    next work pool standing present =>
      cases taken
      split
      next completed => exact .repeated work pool standing present completed
      next missing => exact .fresh work pool standing present (Bool.eq_false_iff.mpr missing)
    next => cases taken
  | answer timestamp =>
    simp only [consumerSystem, Consumer.stepReceiver] at taken
    split at taken
    next work pool standing present =>
      cases taken
      exact .answer timestamp work pool standing present
    next => cases taken
  | push =>
    simp only [consumerSystem, Consumer.stepReceiver] at taken
    split at taken
    next work pool standing present =>
      obtain ⟨after, pushed, rfl⟩ := Option.map_eq_some_iff.mp taken
      exact .push work pool after standing present pushed
    next => cases taken
  | pool event =>
    simp only [consumerSystem] at taken
    split at taken
    next => cases taken
    next pool present =>
      split at taken
      next allowed =>
        obtain ⟨after, step, rfl⟩ := Option.map_eq_some_iff.mp taken
        exact .pool event pool after present allowed step
      next => cases taken
  | stop =>
    cases taken
    exact .stop
  | fail timestamp =>
    simp only [consumerSystem] at taken
    split at taken
    next work rest pool failing present =>
      cases taken
      exact .fail timestamp work rest pool failing present
    next => cases taken

/-- What the loop body makes of a frame that carries a unit. -/
def Receiver.Takes (r : Receiver) (work : WorkUnitMessage) (after : Receiver) :
    Receiver.Pass → Prop
  | .continues => False
  | .breaks _ | .exits _ => after.fileReady = r.fileReady
  | .first first => first = work ∧ r.fileReady = false ∧ after.fileReady = true
  | .check checked => checked = work ∧ r.fileReady = true ∧ after.fileReady = true

/-- A unit is not left behind unless the loop or the process ends with it. -/
theorem pass_unit {config : ReceiverConfig} {r after : Receiver} {frame : List UInt8}
    {fs : FileSystem} {server : FileServer} {work : WorkUnitMessage} {reached : Receiver.Pass}
    (valid : ¬ (work.workUnitId = "" ∨ work.job.isEmpty = true))
    (content : readFrame config frame = .unit work)
    (passed : r.pass config frame fs server = (after, reached)) : r.Takes work after reached := by
  unfold Receiver.pass at passed
  rw [content] at passed
  dsimp only at passed
  split at passed
  next ready =>
    cases passed
    exact ⟨rfl, ready, ready⟩
  next early =>
    split at passed
    next discarded =>
      unfold ConsumerFiles.receiveFirst at discarded
      rw [if_neg valid] at discarded
      repeat' split at discarded
      all_goals cases discarded
    all_goals cases passed
    · rfl
    · rfl
    · exact ⟨rfl, Bool.eq_false_iff.mpr early, rfl⟩

/-- Once the files are there the path of the local copy stays. -/
theorem pass_localFilePath {config : ReceiverConfig} {r after : Receiver} {frame : List UInt8}
    {fs : FileSystem} {server : FileServer} {reached : Receiver.Pass}
    (passed : r.pass config frame fs server = (after, reached)) (ready : r.fileReady = true) :
    after.localFilePath = r.localFilePath := by
  unfold Receiver.pass at passed
  split at passed
  · cases passed
    rfl
  · cases passed
    rfl
  · cases passed
    rfl
  · rw [if_pos ready] at passed
    cases passed
    rfl

/-- The frame of a message that parses to itself, up to the types its numbers are read with. -/
theorem readFrame_message {config : ReceiverConfig} {msg : WorkUnitMessage}
    (overTcp : config.transport = .tcp)
    (legible : config.json.parse (msg.toString config.json) = .ok msg.toJson)
    (valid : ¬ (msg.workUnitId = "" ∨ msg.job.isEmpty = true)) :
    readFrame config (Path.ofString (msg.toString config.json)) =
      .unit { msg with
        seq := toInt32 msg.seq, permutationSeed := msg.permutationSeed.map toInt64 } := by
  have kind : msg.toJson.value "msg_type" "" Json.getString = .ok "work_unit" := rfl
  unfold readFrame
  rw [overTcp, if_neg (fun udp => nomatch udp.1), parseFrame_ofString, legible]
  dsimp only
  rw [kind]
  dsimp only
  rw [if_pos rfl, WorkUnitMessage.fromJson_toJson]
  exact if_neg valid

end PnC.Source
