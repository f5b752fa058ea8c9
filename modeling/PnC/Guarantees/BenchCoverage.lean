import PnC.Guarantees.BenchAgreement
import PnC.Source.QuietDeployment

/-!
# A BENCH job compares the whole file

A producer with the BENCH plugin and any number of consumers with BENCH_Handler. When the plugin
is exhausted, the fleet is quiet and no send has failed, every byte of the source file behind
the start of the run lies in a chunk that some consumer has compared with its own copy. The
result says match exactly where the two chunks have the same hash. Each message of the producer
is one step: two calls of next_unit that overlap can read the same offset and skip the next chunk.
-/
namespace PnC.Guarantees.BenchCoverage

open PnC.Library PnC.Source PnC.Source.BenchState BenchAgreement

/-- What BENCH_Handler makes of a unit, on the files that its consumer has. -/
def Compares (disks : Nat → FileSystem) (n : Nat) (work : WorkUnitMessage)
    (result : ResultMessage) : Prop :=
  ∃ what duration, result = BenchHandler.handle (disks n) what duration work

/-- The bytes of a content from an offset on. -/
def chunk (content : List UInt8) (offset size : Nat) : List UInt8 :=
  (content.drop offset).take size

/-- A result that says how the copy of a consumer compares with this chunk of the source. -/
structure Reports (content copy : List UInt8) (offset size : Nat) (result : ResultMessage) :
    Prop where
  succeeds : result.status = "success"
  begins : result.result.find "offset" = some (.numberInteger offset)
  measures : result.result.find "chunk_size" = some (.numberInteger size)
  compares : result.result.find "match" = some (.boolean (decide
    (sha256Bytes (readChunk copy offset size) = sha256Bytes (chunk content offset size))))

/-! ## The units of the plugin -/

section Calls

variable {config : Option Json} {content : List UInt8} {start : BenchState} {byte : Nat}

/-- A call that moves the offset over a byte gives the chunk with this byte. -/
theorem unit_over {t : BenchState} (fits : FitsInt64 content.length)
    (reads : Reads config (some content) t) (behind : t.offset ≤ byte)
    (passed : byte < (createBenchPlugin.after t).offset) :
    ∃ (next : BenchState) (seq : Int) (offset size : Nat),
      t.nextUnit = .unit next (job offset size seq (chunk content offset size)) ∧
      FitsInt32 size ∧ offset + size ≤ content.length ∧ offset ≤ byte ∧ byte < offset + size := by
  obtain ⟨inside, -⟩ := inside_of_reads fits reads
  rcases after_bench t with idle | ⟨j, call⟩
  · rw [idle] at passed
    omega
  · obtain ⟨size, seq, count, bound, -, -, reached, rfl⟩ := inside.unit fits call
    have started := inside.started
    obtain ⟨offset, here⟩ := Int.eq_ofNat_of_zero_le started
    have small := fits_chunkSize config
    rw [here, Int.toNat_natCast] at call
    refine ⟨_, seq, offset, size, call, ?_, ?_, ?_, ?_⟩
    · unfold FitsInt32 at small ⊢
      omega
    all_goals omega

/-- Every byte that the calls have passed lies in the chunk of one of them. -/
theorem chunk_with (fits : FitsInt64 content.length) (reads : Reads config (some content) start)
    (behind : start.offset ≤ byte) {calls : Nat}
    (passed : byte < (createBenchPlugin.after^[calls] start).offset) :
    ∃ i < calls, ∃ (seq : Int) (offset size : Nat),
      createBenchPlugin.Gives start i (job offset size seq (chunk content offset size)) ∧
      FitsInt32 size ∧ offset + size ≤ content.length ∧ offset ≤ byte ∧ byte < offset + size := by
  induction calls with
  | zero =>
    have stood : byte < start.offset := passed
    omega
  | succ calls ih =>
    by_cases earlier : byte < (createBenchPlugin.after^[calls] start).offset
    · obtain ⟨i, below, given⟩ := ih earlier
      exact ⟨i, by omega, given⟩
    · have holds : Reads config (some content) (createBenchPlugin.after^[calls] start) :=
        TestPlugin.inv_iterate (bench_resumable config (some content)).after reads calls
      rw [Function.iterate_succ_apply'] at passed
      obtain ⟨next, seq, offset, size, call, given⟩ :=
        unit_over fits holds (Int.not_lt.mp earlier) passed
      exact ⟨calls, Nat.lt_succ_self calls, seq, offset, size, ⟨next, call⟩, given⟩

end Calls

/-! ## What the consumers make of them -/

variable {fleet : Nat → ConsumerProgram} {disks : Nat → FileSystem} {p : Producer BenchState}
  {events : List DeploymentEvent} {s : Deployment BenchState}

/-- The handler on a chunk of a file that is not longer than the range of int. -/
theorem reports_of_compares {seq : Int} {fs : FileSystem} {work : WorkUnitMessage}
    {what : Exception → String} {duration : Int} {content copy : List UInt8} {offset size : Nat}
    (points : PointsAt fs work.sourceFile copy) (nonempty : 0 < size) (small : FitsInt32 size)
    (inside : offset + size ≤ content.length) (short : content.length ≤ 2 ^ 31)
    (carries : work.job = job offset size seq (chunk content offset size)) :
    Reports content copy offset size (BenchHandler.handle fs what duration work) := by
  have kept : toInt32 (offset : Int) = offset := by
    rw [toInt32_eq_self_iff]
    unfold FitsInt32
    omega
  obtain ⟨status, compared, there, length⟩ :=
    handle_job what duration points nonempty small carries
  rw [kept] at compared there
  exact ⟨status, there, length, compared⟩

/-- For every source file up to 2^31 bytes, every configuration, a fresh or a resumed
plugin, every fleet and every order of the messages, and whatever the copies hold. -/
theorem bench_compares (config : Option Json) (content : List UInt8)
    (short : content.length ≤ 2 ^ 31)
    (begun : (initPlugin (.bench config (some content))).Begun p.plugin)
    (run : DeploymentRun createBenchPlugin fleet (Compares disks) p events s)
    (succeed : ∀ event ∈ events, event.SendsSucceed)
    (quiet : ∀ n link, s.links n = some link → link.Quiet s.world n)
    (exhausted : ∃ t, createBenchPlugin.nextUnit s.world.producer.plugin = .exhausted t)
    (copies : Nat → List UInt8)
    (points : ∀ n link, s.links n = some link → link.consumer.processed ≠ [] →
      PointsAt (disks n) link.consumer.receiver.localFilePath (copies n))
    (byte : Nat) (behind : p.plugin.offset ≤ byte) (inside : byte < content.length) :
    ∃ n link work result, ∃ offset size : Nat, s.links n = some link ∧
      (work, result) ∈ link.consumer.processed ∧ offset ≤ byte ∧ byte < offset + size ∧
      Reports content (copies n) offset size result ∧
      s.world.producer.tracker.status work.workUnitId = some .completed := by
  have fits : FitsInt64 content.length := by
    unfold FitsInt64
    omega
  have resumable := bench_resumable config (some content)
  have reads : Reads config (some content) p.plugin := resumable.begun begun
  obtain ⟨calls, emitted⟩ : s.world.Complete True createBenchPlugin p.plugin :=
    Deployment.complete_run (fun _ => succeed) run.replay
  -- the calls have passed the byte, and one of them has given its chunk
  have passed : byte < (createBenchPlugin.after^[calls] p.plugin).offset := by
    have holds : Reads config (some content) (createBenchPlugin.after^[calls] p.plugin) :=
      TestPlugin.inv_iterate resumable.after reads calls
    obtain ⟨here, -⟩ := inside_of_reads fits holds
    have ended := (nextUnit_exhausted_iff here.source).mp (emitted.state ▸ exhausted)
    rw [isDone, decide_eq_true_iff, here.size] at ended
    omega
  obtain ⟨i, below, seq, offset, size, gives, small, bound, first, last⟩ :=
    chunk_with fits reads behind passed
  -- the unit with this job was sent, and has a result
  obtain ⟨⟨peer, msg⟩, unit, carried⟩ := List.mem_map.mp (emitted.given trivial i below _ gives)
  obtain ⟨n, rfl, known⟩ := Deployment.addressed_run run.replay _ unit
  obtain ⟨link, present⟩ := Option.isSome_iff_exists.mp known
  obtain ⟨work, result, member, id, same, local_, ⟨what, duration, rfl⟩, settled, -⟩ :=
    run.sound.quiet_result present (quiet n link present) (World.mem_sentTo.mpr unit)
  have copy : PointsAt (disks n) work.sourceFile (copies n) :=
    local_ ▸ points n link present (List.ne_nil_of_mem member)
  have reports : Reports content (copies n) offset size
      (BenchHandler.handle (disks n) what duration work) :=
    reports_of_compares copy (by omega) small bound short (same.trans carried)
  refine ⟨n, link, work, _, offset, size, present, member, first, last, reports, ?_⟩
  rw [id, settled, ResultMessage.settles_completed.mpr reports.succeeds]

/-! ## Two bytes, in one unit -/

def loneBenchProducer : Producer BenchState :=
  .started ⟨"prod-1", "BENCH", "/data/source.bin", "", "sequential", 0⟩ 3
    ⟨some [97, 98], 128, 2, 0, 0, 0⟩

def loneBench : LoneUnit where
  testType := "BENCH"
  workUnitId := "prod-1-3"
  seq := 3
  field := ("task", .string "BENCH")
  fields :=
    [("offset", .numberInteger 0), ("chunk_size", .numberInteger 2),
      ("data", .string (String.ofList (base64Encode [97, 98]))),
      ("hash", .string (sha256Bytes [97, 98])), ("seq", .numberInteger 1)]
  text :=
    "\x7b\"job\":\x7b\"chunk_size\":2,\"data\":\"YWI=\",\"hash\":" ++
      "\"fb8e20fc2e4c3f248c60c39bd652f3c1347298bb977b8b4d5903b85055620603\"," ++
      "\"offset\":0,\"seq\":1,\"task\":\"BENCH\"\x7d,\"msg_type\":\"work_unit\"," ++
      "\"permutation\":\"\",\"producer_id\":\"prod-1\",\"seq\":3," ++
      "\"source_file\":\"/data/source.bin\",\"test_type\":\"BENCH\",\"timestamp\":\"\"," ++
      "\"work_unit_id\":\"prod-1-3\"\x7d"
  named := by decide
  small := rfl

/-- The consumer has a copy with another second byte. -/
def spoiled : FileSystem where
  locate p := p
  node p := if p = Path.ofString "/data/source.bin" then some (.file [97, 99]) else none
  writable _ := false

def loneBenchResult : ResultMessage :=
  BenchHandler.handle spoiled (fun _ => "") 0 loneBench.message

def loneBenchFinal : Deployment BenchState :=
  LoneUnit.final createBenchPlugin loneBench loneBenchProducer loneBenchResult

theorem filled_of_offers {made : Json} (offers : createBenchPlugin.Offers made) :
    made.isEmpty = false := by
  obtain ⟨t, next, call⟩ := offers
  unfold createBenchPlugin nextUnit at call
  dsimp only at call
  grind [job, Json.isEmpty]

theorem lone_bench : DeploymentRun createBenchPlugin loneBench.consumers (Compares fun _ => spoiled)
    loneBenchProducer (LoneUnit.events loneBenchResult) loneBenchFinal :=
  LoneUnit.run_lone ⟨fun _ => "", 0, rfl⟩ (fun _ => filled_of_offers) rfl rfl rfl rfl rfl rfl rfl rfl

theorem points_spoiled : PointsAt spoiled "/data/source.bin" [97, 99] := by
  have status : spoiled.status (Path.ofString "/data/source.bin") = some (.file [97, 99]) := by
    rw [FileSystem.status, spoiled]
    dsimp only
    exact if_pos rfl
  refine ⟨by decide, Path.ofString "/data/source.bin", ?_, status⟩
  simp only [BenchHandler.localPath, FileSystem.pathExists, status, bind, Except.bind, if_true,
    pure, Except.pure]

theorem lone_bench_points (n : Nat) (link : Link) (present : loneBenchFinal.links n = some link) :
    PointsAt spoiled link.consumer.receiver.localFilePath [97, 99] := by
  cases n with
  | zero =>
    have path : (loneBenchFinal.links 0).map (·.consumer.receiver.localFilePath) =
        some "/data/source.bin" := rfl
    rw [present] at path
    rw [show link.consumer.receiver.localFilePath = _ from Option.some.inj path]
    exact points_spoiled
  | succ n =>
    have absent : loneBenchFinal.links (n + 1) = none := rfl
    cases absent.symm.trans present

theorem lone_bench_compares : ∃ n link work result, ∃ offset size : Nat,
    loneBenchFinal.links n = some link ∧ (work, result) ∈ link.consumer.processed ∧ offset ≤ 1 ∧
      1 < offset + size ∧ Reports [97, 98] [97, 99] offset size result ∧
      loneBenchFinal.world.producer.tracker.status work.workUnitId = some .completed :=
  bench_compares none [97, 98] (by decide) (.fresh rfl) lone_bench (LoneUnit.sends_lone _)
    (LoneUnit.quiet_lone rfl (fun _ => rfl) rfl rfl rfl rfl rfl rfl rfl) ⟨_, rfl⟩
    (fun _ => [97, 99]) (fun n link present _ => lone_bench_points n link present) 1 (by decide)
    (by decide)

end PnC.Guarantees.BenchCoverage
