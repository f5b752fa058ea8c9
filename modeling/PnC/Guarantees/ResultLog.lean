import PnC.Guarantees.CallbackOrder
import PnC.Source.ConsumerSteps
import PnC.Source.FileResultSink

/-!
# The result file follows the pool

The result callback marks a unit as completed, hands the result to the sink and sends it. In
every interleaving of the workers the file gets one line for each result, in the order in which
the results are sent; at the end its counters are those of the pool. A sink that has asked to
stop goes on asking. A result is sent when it is handed to send_result, which only logs a send
that fails.
-/
namespace PnC.Guarantees.ResultLog

open PnC.Library PnC.Source CallbackOrder FileResultSink

/-- What the callbacks of a consumer with a sink capture. -/
structure Reporting where
  consumer : Captured
  sink : FileResultSink

/-- The effects of the result callback, in their order. -/
def callback (text : JsonText) (result : ResultMessage) : List (Reporting → Reporting) :=
  [fun r => { r with consumer := r.consumer.markSuccess result },
    fun r => { r with sink := r.sink.onResult text result },
    fun r => { r with consumer := r.consumer.sendResult result }]

/-- The callbacks that receiver_loop registers, with the sink. -/
def reportingPool (text : JsonText) (config : ConsumerConfig) : PoolConfig Reporting where
  hasHandler := config.hasHandler
  resultCallback := some (callback text)
  idleCallback := some fun _ => []

variable {text : JsonText} {config : ConsumerConfig} {κ : Type} {poolConfig : PoolConfig κ}

/-! ## What the callbacks come to -/

theorem markSuccess_sent (result : ResultMessage) (c : Captured) :
    (c.markSuccess result).sent = c.sent := by
  unfold Captured.markSuccess
  split <;> rfl

theorem after_callbacks (text : JsonText) (r : Reporting) (results : List ResultMessage) :
    (afterResults (callback text) r results).sink = r.sink.afterAll text results ∧
      (afterResults (callback text) r results).consumer.sent = r.consumer.sent ++ results := by
  induction results generalizing r with
  | nil => exact ⟨rfl, (List.append_nil _).symm⟩
  | cons result rest ih =>
    obtain ⟨sink, sent⟩ := ih (applyEffects (callback text result) r)
    refine ⟨sink, sent.trans ?_⟩
    show (r.consumer.markSuccess result).sent ++ [result] ++ rest =
      r.consumer.sent ++ result :: rest
    rw [markSuccess_sent, List.append_assoc, List.singleton_append]

/-- The results that are in the file, and those that have been sent. -/
structure Kept (text : JsonText) (initial : Reporting) (pool : ThreadPool Reporting)
    (logged sent : List ResultMessage) : Prop where
  inFile : pool.shared.captured.sink = initial.sink.afterAll text logged
  onWire : pool.shared.captured.consumer.sent = initial.consumer.sent ++ sent
  sentLogged : sent <+: logged
  loggedPassed : logged <+: results pool.shared
  atMostOne : (results pool.shared).length ≤ sent.length + 1

theorem serial_of_run {initial : Reporting} {size : UInt64} {events : List PoolEvent}
    {pool : ThreadPool Reporting}
    (replay : (poolSystem (reportingPool text config)).run (.start size initial) events =
      some pool) : Serial (callback text) initial pool :=
  serial_run rfl (by rintro idle ⟨⟩ count; rfl) (serial_start size initial) replay

/-- A callback is in front of its first effect, or behind its first, second or third. -/
theorem callback_cut {result : ResultMessage} {done rest : List (Reporting → Reporting)}
    (parts : callback text result = done ++ rest) :
    ∃ n ≤ 3, done = (callback text result).take n := by
  have whole : (callback text result).length = 3 := rfl
  rw [parts, List.length_append] at whole
  exact ⟨done.length, by omega, by rw [parts, List.take_left]⟩

/-- Between two effects of a callback. -/
theorem kept_of_serial {initial : Reporting} {pool : ThreadPool Reporting}
    (serial : Serial (callback text) initial pool) :
    ∃ logged sent, Kept text initial pool logged sent := by
  obtain ⟨-, done⟩ | ⟨result, front, done, rest, -, last, parts, far⟩ := serial.inOrder
  · obtain ⟨sink, sent⟩ := after_callbacks text initial (results pool.shared)
    exact ⟨_, _, by rw [done, sink], by rw [done, sent], List.prefix_rfl, List.prefix_rfl,
      Nat.le_succ _⟩
  · obtain ⟨sink, sent⟩ := after_callbacks text initial front
    have marked : ((afterResults (callback text) initial front).consumer.markSuccess result).sent =
        initial.consumer.sent ++ front := (markSuccess_sent ..).trans sent
    have logged : (afterResults (callback text) initial front).sink.onResult text result =
        initial.sink.afterAll text (front ++ [result]) := by
      rw [sink, afterAll_snoc]
    have behind := List.prefix_append front [result]
    have one : (front ++ [result]).length ≤ front.length + 1 := by simp
    obtain ⟨n, small, rfl⟩ := callback_cut parts
    obtain rfl | rfl | rfl | rfl : n = 0 ∨ n = 1 ∨ n = 2 ∨ n = 3 := by omega
    · exact ⟨front, front, by rw [far]; exact sink, by rw [far]; exact sent, List.prefix_rfl,
        last ▸ behind, last ▸ one⟩
    · exact ⟨front, front, by rw [far]; exact sink, by rw [far]; exact marked, List.prefix_rfl,
        last ▸ behind, last ▸ one⟩
    · exact ⟨front ++ [result], front, by rw [far]; exact logged, by rw [far]; exact marked, behind,
        last ▸ List.prefix_rfl, last ▸ one⟩
    · refine ⟨front ++ [result], front ++ [result], by rw [far]; exact logged, ?_, List.prefix_rfl,
        last ▸ List.prefix_rfl, by rw [last]; exact Nat.le_succ _⟩
      rw [far, ← List.append_assoc, ← marked]
      rfl

/-- When all workers have ended every result is in the file and sent. -/
theorem kept_of_ended {initial : Reporting} {pool : ThreadPool Reporting}
    (serial : Serial (callback text) initial pool)
    (ended : pool.workers.all WorkerPhase.hasExited = true) :
    Kept text initial pool (results pool.shared) (results pool.shared) := by
  obtain ⟨sink, sent⟩ := after_callbacks text initial (results pool.shared)
  have done := serial.ended ended
  exact ⟨by rw [done, sink], by rw [done, sent], List.prefix_rfl, List.prefix_rfl, Nat.le_succ _⟩

/-- What is in the file and what is sent in every state of every run. -/
theorem kept_of_run {initial : Reporting} {size : UInt64} {events : List PoolEvent}
    {pool : ThreadPool Reporting}
    (replay : (poolSystem (reportingPool text config)).run (.start size initial) events =
      some pool) :
    ∃ logged sent, Kept text initial pool logged sent ∧
      (pool.workers.all WorkerPhase.hasExited = true →
        logged = results pool.shared ∧ sent = results pool.shared) := by
  have serial := serial_of_run replay
  by_cases finished : pool.workers.all WorkerPhase.hasExited = true
  · exact ⟨_, _, kept_of_ended serial finished, fun _ => ⟨rfl, rfl⟩⟩
  · obtain ⟨logged, sent, kept⟩ := kept_of_serial serial
    exact ⟨logged, sent, kept, fun ended => absurd ended finished⟩

/-! ## The counters of the pool -/

/-- total_completed_ or total_failed_ -/
def counter (s : PoolShared κ) : Bool → UInt64
  | true => s.totalCompleted
  | false => s.totalFailed

/-- The result was passed, and has not been counted. -/
def uncounted (ok : Bool) : WorkerPhase κ → Nat
  | .reporting _ result _ | .reported result => [result].countP (succeeded · = ok)
  | _ => 0

/-- What is counted or will be is what was passed. -/
def Totals (ok : Bool) (pool : ThreadPool κ) : Prop :=
  counter pool.shared ok + UInt64.ofNat (pool.total (uncounted ok)) =
    UInt64.ofNat ((results pool.shared).countP (succeeded · = ok))

theorem totals_worker (ok : Bool) {i : Nat} {s t : PoolShared κ} {phase next : WorkerPhase κ}
    (registered : poolConfig.resultCallback.isSome = true)
    (step : WorkerStep poolConfig i s phase next t) :
    ∃ more passed : Nat, counter t ok = counter s ok + UInt64.ofNat more ∧
      (results t).countP (succeeded · = ok) = (results s).countP (succeeded · = ok) + passed ∧
      more + uncounted ok next = passed + uncounted ok phase := by
  cases step with
  | callResult work result other free present =>
    refine ⟨0, [result].countP (succeeded · = ok), ?_, ?_, Nat.zero_add _⟩
    · cases ok <;> simp [counter]
    · simp [results]
  | countCompleted result success =>
    refine ⟨[result].countP (succeeded · = ok), 0, ?_, rfl, ?_⟩
    · cases ok <;> simp [counter, succeeded, success]
    · simp [uncounted]
  | countFailed result failure =>
    refine ⟨[result].countP (succeeded · = ok), 0, ?_, rfl, ?_⟩
    · cases ok <;> simp [counter, succeeded, failure]
    · simp [uncounted]
  | noResultCallback work result free missing =>
    rw [missing] at registered
    cases registered
  | _ => exact ⟨0, 0, by cases ok <;> simp [counter], rfl, rfl⟩

theorem totals_step {ok : Bool} {pool after : ThreadPool κ}
    (registered : poolConfig.resultCallback.isSome = true) (step : PoolStep poolConfig pool after)
    (totals : Totals ok pool) : Totals ok after := by
  cases step with
  | worker left right phase next shared before step =>
    have moved := ThreadPool.total_move (uncounted ok) before
      { pool with shared := shared, workers := left ++ next :: right } rfl
    obtain ⟨more, passed, count, listed, balance⟩ := totals_worker ok registered step
    unfold Totals at totals ⊢
    dsimp only at moved ⊢
    have sum : more + ThreadPool.total
        { pool with shared := shared, workers := left ++ next :: right } (uncounted ok) =
          pool.total (uncounted ok) + passed := by omega
    rw [count, listed, UInt64.add_assoc, ← UInt64.ofNat_add, sum, UInt64.ofNat_add,
      ← UInt64.add_assoc, totals, UInt64.ofNat_add]
  | owner next shared drawn step => cases step <;> exact totals
  | _ => exact totals

theorem totals_run (ok : Bool) {size : UInt64} {captured : κ} {events : List PoolEvent}
    {pool : ThreadPool κ} (registered : poolConfig.resultCallback.isSome = true)
    (replay : (poolSystem poolConfig).run (.start size captured) events = some pool) :
    Totals ok pool := by
  have start : Totals ok (.start size captured) := by
    cases ok <;> simp [Totals, counter, ThreadPool.start, ThreadPool.total, uncounted, results]
  exact TransitionSystem.run_preserves (Totals ok)
    (fun _ _ _ totals taken => totals_step registered (ThreadPool.pool_steps taken) totals) start
    replay

/-- What a line of the file says: the result, and how many there were up to it. -/
structure Says (initial : FileResultSink) (logged : List ResultMessage) (i : Nat)
    (result : ResultMessage) (j : Json) : Prop where
  result : ResultMessage.fromJson j = .ok { result with seq := toInt32 result.seq }
  stats : j.find "sink_stats" = some (.object
    [("total", .numberInteger (initial.total + (i + 1 : Nat))),
      ("successes", .numberInteger (initial.successes + (logged.take (i + 1)).countP succeeded)),
      ("failures", .numberInteger
        (initial.failures + (logged.take (i + 1)).countP fun r => !succeeded r))])

/-- In every state of every run the file has its old lines and then one line for each result
that was passed, in this order, except that the last may still be missing; no result is sent
before its line is written. When all workers have ended nothing is missing. -/
theorem log_follows_pool (text : JsonText) (config : ConsumerConfig) (size : UInt64)
    (initial : Reporting) (opened : initial.sink.isOpen = true)
    (ended : Ended '\n' initial.sink.contents) (events : List PoolEvent)
    (pool : ThreadPool Reporting)
    (replay : (poolSystem (reportingPool text config)).run (.start size initial) events = some pool)
    (undone : ∀ j ∈ initial.sink.entries (results pool.shared), text.parse (text.dump j) = .ok j)
    (oneLine : ∀ j ∈ initial.sink.entries (results pool.shared), '\n' ∉ (text.dump j).toList) :
    ∃ logged sent, sent <+: logged ∧ logged <+: results pool.shared ∧
      (results pool.shared).length ≤ sent.length + 1 ∧
      (pool.workers.all WorkerPhase.hasExited = true → sent = results pool.shared) ∧
      pool.shared.captured.consumer.sent = initial.consumer.sent ++ sent ∧
      ∃ documents : List Json, documents.length = logged.length ∧
        read text pool.shared.captured.sink.contents =
          read text initial.sink.contents ++ documents.map .ok ∧
        ∀ (i : Nat) (result : ResultMessage), logged[i]? = some result →
          ∃ j, documents[i]? = some j ∧ Says initial.sink logged i result j := by
  obtain ⟨logged, sent, kept, whole⟩ := kept_of_run replay
  have among (j : Json) (member : j ∈ initial.sink.entries logged) :
      j ∈ initial.sink.entries (results pool.shared) := by
    obtain ⟨more, whole⟩ := kept.loggedPassed
    rw [← whole]
    exact (entries_front initial.sink logged more).mem member
  refine ⟨logged, sent, kept.sentLogged, kept.loggedPassed, kept.atMostOne,
    fun ended => (whole ended).2, kept.onWire,
    initial.sink.entries logged, length_entries, ?_, ?_⟩
  · rw [kept.inFile]
    exact read_afterAll opened ended (fun j member => undone j (among j member))
      fun j member => oneLine j (among j member)
  · intro i result here
    obtain ⟨t, there, total, successes, failures⟩ :=
      entries_getElem? (s := initial.sink) here
    refine ⟨_, there, fromJson_entry result t, ?_⟩
    rw [entry_stats, stats, total, successes, failures]

/-! One unit through a pool of one worker, which a signal ends. -/

def loneResult : ResultMessage := (WorkUnitMessage.named "prod-1-1").success

def loneSink : FileResultSink := .new "results.jsonl" 0 0 true []

def loneLine : String :=
  "\x7b\"consumer_id\":\"\",\"msg_type\":\"result\",\"result\":\x7b\x7d,\"seq\":0," ++
    "\"sink_stats\":\x7b\"failures\":0,\"successes\":1,\"total\":1\x7d,\"status\":\"success\"," ++
    "\"timestamp\":\"\",\"work_unit_id\":\"prod-1-1\"\x7d"

/-- dump and parse on this line. -/
def loneText : JsonText where
  dump _ := loneLine
  parse s :=
    if s = loneLine then .ok ((loneSink.count loneResult).entry loneResult)
    else .error (.runtimeError "parse_error")

def loneEvents : List PoolEvent :=
  .submit (.named "prod-1-1") :: (List.replicate 6 (.worker 0) ++
    .handlerReturns 0 (.returned loneResult) ::
      (List.replicate 12 (.worker 0) ++ [.requestStop, .worker 0]))

def lonePool : ThreadPool Reporting :=
  ((poolSystem (reportingPool loneText Consumer.smallConsumer)).run (.start 1 ⟨.new, loneSink⟩)
    loneEvents).getD (.start 1 ⟨.new, loneSink⟩)

theorem run_lonePool : (poolSystem (reportingPool loneText Consumer.smallConsumer)).run
    (.start 1 ⟨.new, loneSink⟩) loneEvents = some lonePool := rfl

theorem log_follows_lonePool : ∃ j, read loneText lonePool.shared.captured.sink.contents = [.ok j] ∧
    Says loneSink [loneResult] 0 loneResult j := by
  have entry : loneSink.entries (results lonePool.shared) =
      [(loneSink.count loneResult).entry loneResult] := rfl
  have clear : '\n' ∉ loneLine.toList := by decide +kernel
  have undone (j : Json) (member : j ∈ loneSink.entries (results lonePool.shared)) :
      loneText.parse (loneText.dump j) = .ok j := by
    rw [entry] at member
    rw [List.mem_singleton.mp member, loneText]
    dsimp only
    rw [if_pos rfl]
  obtain ⟨logged, sent, within, front, -, ended, -, documents, size, lines, each⟩ :=
    log_follows_pool loneText Consumer.smallConsumer 1 ⟨.new, loneSink⟩ rfl (.inl rfl) loneEvents
      lonePool run_lonePool undone (fun _ _ => clear)
  have all : results lonePool.shared = [loneResult] := rfl
  have whole : logged = [loneResult] :=
    all ▸ (front.eq_of_length_le (ended rfl ▸ within.length_le))
  subst whole
  obtain ⟨j, there, said⟩ := each 0 loneResult rfl
  obtain ⟨only, rfl⟩ := List.length_eq_one_iff.mp size
  cases there
  exact ⟨_, lines, said⟩

/-- The effects of the result callback, one at a time. -/
theorem later_effect {result : ResultMessage} {effect : Reporting → Reporting}
    (member : effect ∈ callback text result) (r : Reporting) : Later r.sink (effect r).sink := by
  simp only [callback, List.mem_cons, List.not_mem_nil, or_false] at member
  obtain rfl | rfl | rfl := member
  · exact .refl _
  · exact later_onResult text result r.sink
  · exact .refl _

theorem later_step {initial : Reporting} {pool after : ThreadPool Reporting}
    (serial : Serial (callback text) initial pool)
    (step : PoolStep (reportingPool text config) pool after) :
    Later pool.shared.captured.sink after.shared.captured.sink := by
  cases step with
  | worker left right phase next shared before step =>
    cases step with
    | resultEffect work result effect rest =>
      -- the effect is one of those of the result that was passed last
      obtain ⟨-, done, -, -, parts, -⟩ :=
        serial.inOrder.here (Multiset.singleton_le.mp (calling_le_total before))
      exact later_effect (parts ▸ List.mem_append_right done List.mem_cons_self) _
    | idleEffect effect rest =>
      have silent := serial.silent (.notifying (effect :: rest)) (by rw [before]; simp)
      cases silent
    | _ => exact .refl _
  | owner next shared drawn step => cases step <;> exact .refl _
  | _ => exact .refl _

theorem later_run {initial : Reporting} {size : UInt64} {early late : List PoolEvent}
    {pool after : ThreadPool Reporting}
    (replay : (poolSystem (reportingPool text config)).run (.start size initial) early = some pool)
    (further : (poolSystem (reportingPool text config)).run pool late = some after) :
    Later pool.shared.captured.sink after.shared.captured.sink := by
  have both := TransitionSystem.run_preserves
    (fun t => Serial (callback text) initial t ∧
      Later pool.shared.captured.sink t.shared.captured.sink)
    (fun _ _ _ before taken =>
      have step := ThreadPool.pool_steps taken
      ⟨serial_step rfl (by rintro idle ⟨⟩ count; rfl) step before.1,
        before.2.trans (later_step before.1 step)⟩)
    ⟨serial_of_run replay, .refl _⟩ further
  exact both.2

/-- In every state of every run the sink asks to stop when the failed results that it has been
given reach its limit, or its time is up; once it asks it goes on asking. It has been given all
results that were passed but perhaps the last, and all of them when the workers have ended. -/
theorem stop_follows_failures (text : JsonText) (config : ConsumerConfig) (size : UInt64)
    (initial : Reporting) (early late : List PoolEvent) (pool after : ThreadPool Reporting)
    (replay : (poolSystem (reportingPool text config)).run (.start size initial) early = some pool)
    (further : (poolSystem (reportingPool text config)).run pool late = some after) :
    (∃ logged, logged <+: results pool.shared ∧
      (results pool.shared).length ≤ logged.length + 1 ∧
      (pool.workers.all WorkerPhase.hasExited = true → logged = results pool.shared) ∧
      ∀ elapsed, pool.shared.captured.sink.shouldStop elapsed = true ↔
        (0 < initial.sink.maxFailures ∧ initial.sink.maxFailures ≤
          initial.sink.failures + logged.countP fun r => !succeeded r) ∨
        (0 < initial.sink.maxDurationSec ∧ initial.sink.maxDurationSec ≤ elapsed)) ∧
    ∀ elapsed longer, elapsed ≤ longer →
      pool.shared.captured.sink.shouldStop elapsed = true →
        after.shared.captured.sink.shouldStop longer = true := by
  refine ⟨?_, fun elapsed longer order asks => (later_run replay further).shouldStop order asks⟩
  obtain ⟨logged, sent, kept, whole⟩ := kept_of_run replay
  have nearly := kept.sentLogged.length_le
  have most := kept.atMostOne
  refine ⟨logged, kept.loggedPassed, by omega, fun ended => (whole ended).1, fun elapsed => ?_⟩
  have same := later_afterAll text initial.sink logged
  rw [kept.inFile, shouldStop_iff, same.maxFailures, same.maxDurationSec,
    (counted_afterAll text initial.sink logged).2.2]

/-! A sink that one failure is enough for. -/

def strictSink : FileResultSink := .new "results.jsonl" 1 0 true []

/-- Up to the write of the line. -/
def failingEvents : List PoolEvent :=
  .submit (.named "prod-1-1") :: (List.replicate 6 (.worker 0) ++
    .handlerReturns 0 (.threw "handler") :: List.replicate 5 (.worker 0))

def failingPool : ThreadPool Reporting :=
  ((poolSystem (reportingPool loneText Consumer.smallConsumer)).run (.start 1 ⟨.new, strictSink⟩)
    failingEvents).getD (.start 1 ⟨.new, strictSink⟩)

theorem run_failingPool : (poolSystem (reportingPool loneText Consumer.smallConsumer)).run
    (.start 1 ⟨.new, strictSink⟩) failingEvents = some failingPool := rfl

theorem stop_follows_one_failure :
    ∃ after, (poolSystem (reportingPool loneText Consumer.smallConsumer)).run failingPool
        [.requestStop, .worker 0, .worker 0] = some after ∧
      failingPool.shared.captured.sink.shouldStop 0 = true ∧
      after.shared.captured.sink.shouldStop 3600 = true := by
  obtain ⟨after, further⟩ : ∃ after,
      (poolSystem (reportingPool loneText Consumer.smallConsumer)).run failingPool
        [.requestStop, .worker 0, .worker 0] = some after := ⟨_, rfl⟩
  have asks : failingPool.shared.captured.sink.shouldStop 0 = true := rfl
  exact ⟨after, further, asks, (stop_follows_failures loneText Consumer.smallConsumer 1
    ⟨.new, strictSink⟩ failingEvents _ failingPool after run_failingPool further).2 0 3600
      (by decide) asks⟩

end PnC.Guarantees.ResultLog
