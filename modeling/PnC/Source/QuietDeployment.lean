import PnC.Source.ConsumerSteps
import PnC.Source.DeploymentUnits

/-!
# Quiet connections

When nothing is on its way over a connection and its consumer has nothing left to do, what
was sent over the connection has been processed, and the results have been taken.
-/
namespace PnC.Source

open PnC.Library

variable {σ : Type} {plugin : TestPlugin σ} {fleet : Nat → ConsumerProgram}
  {Q : WorkUnitMessage → ResultMessage → Prop}
  {R : Nat → WorkUnitMessage → ResultMessage → Prop}

/-- The consumer has nothing left to do until a frame arrives. -/
structure Consumer.Idle (s : Consumer) : Prop where
  looping : s.phase = .atLoop ∨ s.phase = .receiving
  working : s.Working
  drained : ∀ pool, s.pool = some pool →
    pool.shared.queue.buffer = [] ∧ ∀ phase ∈ pool.workers, phase = .popping

/-- Nothing is on its way over the connection, in neither direction. -/
structure Link.Quiet (link : Link) (w : World σ) (n : Nat) : Prop where
  idle : link.consumer.Idle
  taken : link.taken = (w.sentTo n).length
  delivered : link.delivered = link.consumer.results.length

/-! ## One consumer -/

namespace Consumer

variable {arrived : List WorkUnitMessage} {s : Consumer}

theorem Idle.handIds (idle : s.Idle) : s.phase.handIds = [] ∧ s.phase ≠ .left := by
  rcases idle.looping with standing | standing
  · rw [standing]
    exact ⟨rfl, nofun⟩
  · rw [standing]
    exact ⟨rfl, nofun⟩

theorem total_popping {α : Type} (f : WorkerPhase Captured → Multiset α)
    {pool : ThreadPool Captured} (waiting : ∀ phase ∈ pool.workers, phase = .popping)
    (none_ : f .popping = 0) : pool.total f = 0 := by
  refine List.sum_eq_zero ?_
  intro x member
  obtain ⟨phase, among, rfl⟩ := List.mem_map.mp member
  rw [waiting phase among]
  exact none_

/-- What has arrived has been processed, and has a result. -/
theorem idle_results (reports : s.Reports Q arrived) (idle : s.Idle) :
    (s.results.map (·.workUnitId)).Perm (arrived.map (·.workUnitId)) ∧
      (s.processed.map (·.1.workUnitId)).Perm (arrived.map (·.workUnitId)) := by
  obtain ⟨noHand, notLeft⟩ := idle.handIds
  have whole := reports.complete notLeft
  rw [noHand, List.append_nil] at whole
  rw [← whole]
  cases present : s.pool with
  | none =>
    rw [results, processed, submittedIds, present]
    exact ⟨List.Perm.refl _, List.Perm.refl _⟩
  | some pool =>
    rw [results, processed, submittedIds, present]
    have held := reports.pool pool present
    obtain ⟨empty, waiting⟩ := idle.drained pool present
    have noDrawn : pool.drawn = [] := by
      have drains := held.accounted.drains
      rw [ThreadPool.Drains, idle.working pool present] at drains
      exact drains.1
    have passed : (↑(pool.shared.passed.map Prod.fst) : Multiset WorkUnitMessage) =
        ↑pool.submitted := by
      have balance := held.accounted.balance
      rw [total_popping _ waiting rfl, PoolShared.units, empty, noDrawn] at balance
      simpa using balance
    have ids : (↑(pool.shared.passed.map (·.1.workUnitId)) : Multiset String) =
        ↑(pool.submitted.map (·.workUnitId)) :=
      calc _ = Multiset.map WorkUnitMessage.workUnitId ↑(pool.shared.passed.map Prod.fst) := by
            rw [Multiset.map_coe, List.map_map]
            rfl
        _ = _ := by rw [passed, Multiset.map_coe]
    have failed : s.failed = [] := (reports.unreturned idle.working).2
    refine ⟨Multiset.coe_eq_coe.mp ?_, Multiset.coe_eq_coe.mp ?_⟩
    · have balanced := held.balanced
      rw [ThreadPool.Balanced, total_popping _ waiting rfl, failed] at balanced
      rw [← ids]
      simpa using balanced
    · have recorded := held.recorded
      rw [ThreadPool.Recorded, total_popping _ waiting rfl, passed] at recorded
      calc _ = Multiset.map WorkUnitMessage.workUnitId ↑(pool.shared.processed.map Prod.fst) := by
            rw [Multiset.map_coe, List.map_map]
            rfl
        _ = _ := by rw [recorded, add_zero, Multiset.map_coe]

/-- No pool processes an id twice. -/
theorem distinct_processed (reports : s.Reports Q arrived) :
    (s.processed.map (·.1.workUnitId)).Nodup := by
  unfold processed
  split
  next => exact List.nodup_nil
  next pool present =>
    have held := reports.pool pool present
    have distinct := distinct_submitted reports
    rw [submittedIds_of_pool present] at distinct
    have within := Multiset.map_le_map (f := WorkUnitMessage.workUnitId)
      (ThreadPool.processed_le held.accounted held.recorded)
    rw [Multiset.map_coe, Multiset.map_coe, List.map_map] at within
    exact Multiset.coe_nodup.mp (Multiset.nodup_of_le within (Multiset.coe_nodup.mpr distinct))

/-- A processed unit has arrived, with the job it was processed with. -/
theorem arrived_of_processed (reports : s.Reports Q arrived)
    {pair : WorkUnitMessage × ResultMessage} (member : pair ∈ s.processed) :
    pair.1.Copied s.receiver.localFilePath arrived ∧ Echoed Q pair.1 pair.2 := by
  unfold processed at member
  split at member
  next => cases member
  next pool present => exact (reports.pool pool present).contents.shared.processed pair member

end Consumer

/-- Over a quiet connection each unit has a result that has been taken, and that some run of
the handler on its job has given. -/
theorem Deployment.Sound.quiet_result {p : Producer σ} {s : Deployment σ}
    (sound : s.Sound R plugin p) {n : Nat} {link : Link} (present : s.links n = some link)
    (quiet : link.Quiet s.world n) {msg : WorkUnitMessage} (sent : msg ∈ s.world.sentTo n) :
    ∃ work result, (work, result) ∈ link.consumer.processed ∧
      work.workUnitId = msg.workUnitId ∧ work.job = msg.job ∧
      work.sourceFile = link.consumer.receiver.localFilePath ∧ R n work result ∧
      s.world.producer.tracker.status msg.workUnitId = some result.settles ∧
      s.world.producer.Shows result := by
  have tied := sound.tied n link present
  have reports := tied.reports
  rw [quiet.taken, List.take_length] at reports
  obtain ⟨results, -⟩ := Consumer.idle_results reports quiet.idle
  have failed : link.consumer.failed = [] := (reports.unreturned quiet.idle.working).2
  obtain ⟨result, member, same⟩ : ∃ result ∈ link.consumer.results,
      result.workUnitId = msg.workUnitId :=
    List.mem_map.mp (results.mem_iff.mpr (List.mem_map_of_mem sent))
  obtain ⟨work, among, ⟨from_, local_⟩, echo, meets⟩ | ⟨work, returned, -⟩ :=
    Consumer.origin_of_result reports member
  · obtain ⟨source, there, id, job⟩ := from_
    have own : source = msg := List.inj_on_of_nodup_map (World.distinct_sentTo sound.issued n) there
      sent (by rw [← id, ← echo, same])
    subst own
    have delivered : result ∈ link.consumer.results.take link.delivered := by
      rw [quiet.delivered, List.take_length]
      exact member
    have settled := tied.settled failed result delivered
    rw [same] at settled
    exact ⟨work, result, among, id, job, local_, meets, settled, tied.shown result delivered⟩
  · rw [failed] at returned
    cases returned

/-- What a quiet fleet has made of an entry, when no send has failed. -/
theorem DeploymentRun.settled {p : Producer σ} {events : List DeploymentEvent} {s : Deployment σ}
    (run : DeploymentRun plugin fleet R p events s)
    (succeed : ∀ event ∈ events, event.SendsSucceed)
    (quiet : ∀ n link, s.links n = some link → link.Quiet s.world n) {id : String}
    {e : WorkUnitEntry} (tracked : s.world.producer.tracker.find id = some e)
    (new : p.tracker.find id = none) :
    ∃ n link work result, s.links n = some link ∧ (work, result) ∈ link.consumer.processed ∧
      work.workUnitId = id ∧ R n work result ∧ e.status = result.settles := by
  obtain before | ⟨⟨peer, msg⟩, unit, rfl⟩ := Deployment.tracked_run succeed run.replay id
    (by rw [tracked]; rfl)
  · rw [new] at before
    cases before
  · obtain ⟨n, rfl, known⟩ := Deployment.addressed_run run.replay _ unit
    obtain ⟨link, present⟩ := Option.isSome_iff_exists.mp known
    obtain ⟨work, result, member, same, -, -, meets, settled, -⟩ :=
      run.sound.quiet_result present (quiet n link present) (World.mem_sentTo.mpr unit)
    refine ⟨n, link, work, result, present, member, same, meets, ?_⟩
    rw [WorkTracker.status, tracked] at settled
    exact Option.some.inj settled

/-! ## One consumer and one unit, for runs on fixed inputs -/

/-- A unit of a producer on the same machine. -/
structure LoneUnit where
  testType : String
  workUnitId : String
  seq : Int
  field : String × Json
  fields : List (String × Json)
  /-- the text of its message -/
  text : String
  named : workUnitId ≠ ""
  small : toInt32 seq = seq

namespace LoneUnit

variable (lone : LoneUnit)

def message : WorkUnitMessage where
  testType := lone.testType
  sourceFile := "/data/source.bin"
  permutation := ""
  permutationSeed := none
  workUnitId := lone.workUnitId
  seq := lone.seq
  timestamp := ""
  producerId := "prod-1"
  job := .object (lone.field :: lone.fields)
  sourceHash := none

/-- parse and dump on the text of this unit. -/
def json : JsonText where
  dump _ := lone.text
  parse text :=
    if text = lone.text then .ok lone.message.toJson else .error (.runtimeError "parse_error")

def receiver : ReceiverConfig := ⟨.tcp, lone.json, "/data", true, "127.0.0.1", "cons-1"⟩

def consumers (_ : Nat) : ConsumerProgram where
  version := pcVersion
  config := ⟨lone.receiver, true, 1⟩
  overTcp := rfl

/-- The consumer connects and asks for one unit. -/
def start : List DeploymentEvent :=
  [.producer (.accept 0), .connect 0 .quiet, .producer (.loopTest 0), .request 0 1 "" .quiet,
    .producer (.loopTest 0), .consumer 0 .loopTest]

/-- Its worker takes the unit as far as the handler. -/
def work : List DeploymentEvent :=
  .consumer 0 .push :: List.replicate 6 (.consumer 0 (.pool (.worker 0)))

/-- The result is sent and taken, and the worker waits for the next unit. -/
def finish (result : ResultMessage) : List DeploymentEvent :=
  .consumer 0 (.pool (.handlerReturns 0 (.returned result))) ::
    (List.replicate 12 (.consumer 0 (.pool (.worker 0))) ++ [.deliver 0])

def events (result : ResultMessage) : List DeploymentEvent :=
  start ++ .arrive 0 sharedFiles noServer :: (work ++ finish result)

/-- The consumer in front of its first frame, and behind it. -/
def receiving : Consumer := { Consumer.start with phase := .receiving }

def arrived : Consumer :=
  { Consumer.start with
    receiver := ⟨true, "/data/source.bin", lone.seq, lone.seq, 1, 0⟩
    phase := .submitting lone.message
    pool := some (.start 1 .new) }

theorem receiveFirst_lone :
    lone.receiver.files.receiveFirst sharedFiles lone.receiver.json noServer lone.message =
      .started sharedFiles := by
  have named : ¬ (lone.message.workUnitId = "" ∨ lone.message.job.isEmpty = true) := by
    simp [message, lone.named, Json.isEmpty]
  have here : lone.receiver.files.downloadSourceFile sharedFiles
      (Path.ofString lone.message.sourceFile) (lone.message.sourceHash.getD "") noServer.source =
        .ok sharedFiles := rfl
  unfold ConsumerFiles.receiveFirst
  rw [if_neg named, here]
  rfl

theorem pass_lone :
    Receiver.new.pass lone.receiver (Path.ofString lone.text) sharedFiles noServer =
      (⟨true, "/data/source.bin", lone.seq, lone.seq, 1, 0⟩, .first lone.message) := by
  have content : readFrame lone.receiver (Path.ofString lone.text) = .unit lone.message := by
    have read := @readFrame_message lone.receiver lone.message rfl (if_pos rfl)
      (by simp [message, lone.named, Json.isEmpty])
    rw [show toInt32 lone.message.seq = lone.message.seq from lone.small] at read
    exact read
  have copy : lone.receiver.localFilePath lone.message.sourceFile = "/data/source.bin" :=
    (by decide : "/data" ++ "/" ++ String.ofList
      ("/data/source.bin".toList.reverse.takeWhile (· ≠ '/')).reverse = "/data/source.bin")
  rw [Receiver.pass, content]
  dsimp only
  rw [if_neg (by simp [Receiver.new]), receiveFirst_lone, copy]
  rfl

theorem step_lone :
    (consumerSystem (lone.consumers 0).config).step receiving
        (.frame (Path.ofString lone.text) sharedFiles noServer) = some lone.arrived := by
  have passed : Consumer.start.receiver.pass (lone.consumers 0).config.receiver
      (Path.ofString lone.text) sharedFiles noServer =
        (⟨true, "/data/source.bin", lone.seq, lone.seq, 1, 0⟩, .first lone.message) :=
    lone.pass_lone
  simp only [consumerSystem, Consumer.stepReceiver, receiving]
  rw [passed]
  rfl

section Run

variable {lone} {s t : Deployment σ} {p : Producer σ} {result : ResultMessage}

/-- The unit has been sent; the consumer has taken it; its handler has it; the end. -/
def sent (plugin : TestPlugin σ) (lone : LoneUnit) (p : Producer σ) : Deployment σ :=
  ((deploymentSystem plugin lone.consumers).run (.listening p) start).getD (.listening p)

def taken (plugin : TestPlugin σ) (lone : LoneUnit) (p : Producer σ) : Deployment σ :=
  (sent plugin lone p).setLink 0 ⟨lone.arrived, 1, 0⟩

def handling (plugin : TestPlugin σ) (lone : LoneUnit) (p : Producer σ) : Deployment σ :=
  ((deploymentSystem plugin lone.consumers).run (taken plugin lone p) work).getD (.listening p)

def final (plugin : TestPlugin σ) (lone : LoneUnit) (p : Producer σ) (result : ResultMessage) :
    Deployment σ :=
  ((deploymentSystem plugin lone.consumers).run (handling plugin lone p) (finish result)).getD
    (.listening p)

theorem arrive_lone (link : s.links 0 = some ⟨receiving, 0, 0⟩)
    (units : s.world.sentTo 0 = [lone.message]) :
    (deploymentSystem plugin lone.consumers).step s (.arrive 0 sharedFiles noServer) =
      some (s.setLink 0 ⟨lone.arrived, 1, 0⟩) := by
  have text : lone.message.toString (lone.consumers 0).json = lone.text := rfl
  simp only [deploymentSystem, link, units, List.getElem?_cons_zero, text]
  rw [step_lone]
  rfl

/-- Events whose steps are not asked anything. -/
def isFree : DeploymentEvent → Bool
  | .arrive .. | .consumer _ (.pool (.handlerReturns ..)) => false
  | _ => true

theorem along_of_free {events : List DeploymentEvent} (free : events.all isFree = true) :
    (deploymentSystem plugin fleet).Along (Faithful fleet R) s events := by
  refine TransitionSystem.along_imp ?_ (TransitionSystem.along_of_mem (List.all_eq_true.mp free))
  intro s event t free
  unfold Faithful
  split
  · cases free
  · cases free
  · trivial

/-- What is left to compute of the run. -/
theorem run_lone {link : Link} {pool : ThreadPool Captured} (meets : R 0 lone.message result)
    (filled : ∀ job, plugin.Offers job → job.isEmpty = false)
    (begins : (deploymentSystem plugin lone.consumers).run (.listening p) start =
      some (sent plugin lone p))
    (connected : (sent plugin lone p).links 0 = some ⟨receiving, 0, 0⟩)
    (units : (sent plugin lone p).world.sentTo 0 = [lone.message])
    (works : (deploymentSystem plugin lone.consumers).run (taken plugin lone p) work =
      some (handling plugin lone p))
    (present : (handling plugin lone p).links 0 = some link)
    (started : link.consumer.pool = some pool)
    (busy : pool.workers[0]? = some (.handling lone.message))
    (ends : (deploymentSystem plugin lone.consumers).run (handling plugin lone p) (finish result) =
      some (final plugin lone p result)) :
    DeploymentRun plugin lone.consumers R p (events result) (final plugin lone p result) := by
  have arrive := @arrive_lone σ plugin lone _ connected units
  refine ⟨filled, fun _ none_ => Bool.noConfusion none_, ?_, ?_⟩
  · refine TransitionSystem.along_of_append (along_of_free rfl) ?_
    intro t replay
    cases begins.symm.trans replay
    intro u step
    cases arrive.symm.trans step
    refine ⟨?_, TransitionSystem.along_of_append (along_of_free rfl) ?_⟩
    · intro msg member
      rw [units, List.mem_singleton] at member
      subst member
      exact if_pos rfl
    · intro t replay
      cases works.symm.trans replay
      intro u step
      refine ⟨?_, along_of_free rfl⟩
      intro link' pool' work' present' started' busy'
      cases present.symm.trans present'
      cases started.symm.trans started'
      cases busy.symm.trans busy'
      exact meets
  · rw [events, TransitionSystem.run_append, begins]
    refine TransitionSystem.run_after arrive ?_
    rw [TransitionSystem.run_append, show (deploymentSystem plugin lone.consumers).run
      ((sent plugin lone p).setLink 0 ⟨lone.arrived, 1, 0⟩) work = _ from works]
    exact ends

theorem sends_lone (result : ResultMessage) : ∀ event ∈ events result, event.SendsSucceed := by
  simp [events, start, work, finish, List.replicate, DeploymentEvent.SendsSucceed,
    HandlerEnv.quiet]

theorem quiet_lone {link : Link} {pool : ThreadPool Captured} (present : s.links 0 = some link)
    (only : ∀ n, s.links (n + 1) = none) (looping : link.consumer.phase = .atLoop)
    (started : link.consumer.pool = some pool) (working : pool.owner = .submitting)
    (drained : pool.shared.queue.buffer = []) (waiting : pool.workers = [.popping])
    (taken : link.taken = (s.world.sentTo 0).length)
    (delivered : link.delivered = link.consumer.results.length) (n : Nat) (other : Link)
    (there : s.links n = some other) : other.Quiet s.world n := by
  cases n with
  | zero =>
    cases present.symm.trans there
    refine ⟨⟨.inl looping, ?_, ?_⟩, taken, delivered⟩
    · intro pool' started'
      cases started.symm.trans started'
      exact working
    · intro pool' started'
      cases started.symm.trans started'
      refine ⟨drained, fun phase member => ?_⟩
      rw [waiting] at member
      exact List.mem_singleton.mp member
  | succ n => cases (only n).symm.trans there

end Run

end LoneUnit

end PnC.Source
