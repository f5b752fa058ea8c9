import PnC.Source.BenchUnits

/-!
# BENCH producer and consumer

The handler reads the same bytes of its copy that the plugin read, from the offset of the
job. It reads that offset with the default 0, an int, so from 2^31 on it looks elsewhere.
-/
namespace PnC.Guarantees.BenchAgreement

open PnC.Source PnC.Source.BenchState PnC.Source.BenchHandler

/-- source_file leads the handler to a file with this content. -/
def PointsAt (fs : FileSystem) (sourceFile : String) (content : List UInt8) : Prop :=
  sourceFile ≠ "" ∧
    ∃ path, localPath fs sourceFile = .ok path ∧ fs.status path = some (.file content)

/-- What the handler answers to a message that has come through to_string and
from_string: success, a match, and the offset and chunk size of the unit. -/
def Agrees (text : JsonText) (fs : FileSystem) (what : Exception → String) (duration : Int)
    (m : WorkUnitMessage) : Prop :=
  ∃ received, WorkUnitMessage.fromString text (m.toString text) = .ok received ∧
    (handle fs what duration received).status = "success" ∧
    (handle fs what duration received).result.find "match" = some (.boolean true) ∧
    (handle fs what duration received).result.find "offset" = m.job.find "offset" ∧
    (handle fs what duration received).result.find "chunk_size" = m.job.find "chunk_size"

section Handler
variable {fs : FileSystem} {work : WorkUnitMessage} {content : List UInt8}

theorem localChunk_of_points (points : PointsAt fs work.sourceFile content) {chunkSize : Int}
    (offset : Int) (positive : 0 ≤ chunkSize) :
    localChunk fs work.sourceFile offset chunkSize =
      .ok (readChunk content offset chunkSize.toNat) := by
  obtain ⟨named, path, found, status⟩ := points
  have present : fs.pathExists path = .ok true := by
    rw [FileSystem.pathExists, status]
  have read : readLocal fs path offset chunkSize =
      .ok (readChunk content offset chunkSize.toNat) := by
    rw [readLocal, status]
    exact if_neg (Int.not_lt.mpr positive)
  rw [localChunk, if_neg named, found]
  simp only [bind, Except.bind, present, if_true, read]

/-- The handler on a job of the plugin: the offset goes through int. -/
theorem handle_job (what : Exception → String) (duration : Int)
    (points : PointsAt fs work.sourceFile content) {offset seq : Int} {toRead : Nat}
    {chunk : List UInt8} (positive : 0 < toRead) (small : FitsInt32 toRead)
    (carries : work.job = job offset toRead seq chunk) :
    (handle fs what duration work).status = "success" ∧
      (handle fs what duration work).result.find "match" =
        some (.boolean (decide
          (sha256Bytes (readChunk content (toInt32 offset) toRead) = sha256Bytes chunk))) ∧
      (handle fs what duration work).result.find "offset" =
        some (.numberInteger (toInt32 offset)) ∧
      (handle fs what duration work).result.find "chunk_size" = some (.numberInteger toRead) := by
  obtain ⟨offsetRead, sizeRead, dataRead, hashRead⟩ :
      work.job.value "offset" 0 Json.getInt = .ok (toInt32 offset) ∧
      work.job.value "chunk_size" 128 Json.getInt = .ok (toRead : Int) ∧
      work.job.value "data" "" Json.getString = .ok (String.ofList (base64Encode chunk)) ∧
      work.job.value "hash" "" Json.getString = .ok (sha256Bytes chunk) := by
    rw [carries]
    exact ⟨rfl, congrArg Except.ok (toInt32_of_fits small), rfl, rfl⟩
  have read := localChunk_of_points points (toInt32 offset) (Int.natCast_nonneg toRead)
  have nonempty : readChunk content (toInt32 offset) toRead ≠ [] := by
    intro empty
    have length := length_readChunk content (toInt32 offset) toRead
    rw [empty] at length
    exact absurd length (Nat.ne_of_lt positive)
  rw [Int.toNat_natCast] at read
  have compared : compareChunk fs duration work = .ok (.object
      [("match", .boolean (decide
          (sha256Bytes (readChunk content (toInt32 offset) toRead) = sha256Bytes chunk))),
        ("offset", .numberInteger (toInt32 offset)), ("chunk_size", .numberInteger toRead),
        ("expected_hash", .string (sha256Bytes chunk)),
        ("actual_hash", .string (sha256Bytes (readChunk content (toInt32 offset) toRead))),
        ("duration_ms", .numberInteger duration)]) := by
    simp only [compareChunk, offsetRead, sizeRead, dataRead, hashRead, read, bind, Except.bind,
      pure, Except.pure, nonempty, if_false, ne_eq, not_false_eq_true, true_and]
  rw [handle, compared]
  exact ⟨rfl, rfl, rfl, rfl⟩

end Handler

section Units
variable {config : Option Json} {content : List UInt8} {s : BenchState}

/-- The chunk size of a configuration is an int. -/
theorem fits_chunkSize (config : Option Json) : FitsInt32 (configured config).chunkSize := by
  have fallback : FitsInt32 128 := by decide
  cases config with
  | none => exact fallback
  | some cfg =>
    change FitsInt32 (new.readConfig cfg).chunkSize
    unfold readConfig
    split
    next => exact fallback
    next chunkSize read => exact Json.fits_value fallback read

/-- The states of a producer with this configuration and source file. -/
theorem inside_of_reads (fits : FitsInt64 content.length) (reads : Reads config (some content) s) :
    s.Inside content (configured config).chunkSize ∧ (configured config).chunkSize ≠ 0 := by
  have given : (configured config).setBenchSourceFile content =
      .ok { s with offset := 0, seq := 0 } := reads.configured
  have fresh := (configured_counters config).1
  obtain ⟨⟨source, chunk, size, -⟩, -, divisible⟩ :=
    inside_of_given fits (Int.le_of_eq fresh.symm) given
  have same : s.chunkSize = (configured config).chunkSize := chunk
  exact ⟨⟨source, chunk, size, reads.started⟩, same ▸ divisible⟩

end Units

/-- The handler agrees with a unit exactly when its offset is in the range of int: for
every source file, every configuration, every unit of a producer, resumed or not, every
message that carries it and every copy. -/
theorem handler_agrees_iff (text : JsonText) (fs : FileSystem) (what : Exception → String)
    (duration : Int) (config : Option Json) (content : List UInt8)
    (size : content.length < 2 ^ 63) (state : BenchState)
    (begun : (initPlugin (.bench config (some content))).Begun state) (n : Nat)
    (next : BenchState) (job : Json)
    (emitted : (createBenchPlugin.after^[n] state).nextUnit = .unit next job)
    (m : WorkUnitMessage) (carries : m.job = job) (points : PointsAt fs m.sourceFile content)
    (undone : text.parse (text.dump m.toJson) = .ok m.toJson) :
    Agrees text fs what duration m ↔ (createBenchPlugin.after^[n] state).offset < 2 ^ 31 := by
  have fits : FitsInt64 content.length := by
    unfold FitsInt64
    omega
  have resumable := bench_resumable config (some content)
  have reads : Reads config (some content) (createBenchPlugin.after^[n] state) :=
    TestPlugin.inv_iterate resumable.after (resumable.begun begun) n
  generalize createBenchPlugin.after^[n] state = t at emitted reads ⊢
  obtain ⟨inside, divisible⟩ := inside_of_reads fits reads
  obtain ⟨toRead, seq, count, bound, more, -, -, rfl⟩ := inside.unit fits emitted
  have started := inside.started
  have small : FitsInt32 toRead := by
    have chunk := fits_chunkSize config
    unfold FitsInt32 at chunk ⊢
    omega
  have received : WorkUnitMessage.fromString text (m.toString text) =
      .ok { m with seq := toInt32 m.seq, permutationSeed := m.permutationSeed.map toInt64 } := by
    rw [WorkUnitMessage.fromString, WorkUnitMessage.toString, undone]
    exact m.fromJson_toJson
  have sameFile : PointsAt fs
      { m with seq := toInt32 m.seq, permutationSeed := m.permutationSeed.map toInt64 }.sourceFile
      content := points
  obtain ⟨status, isMatch, offset, chunkSize⟩ :=
    handle_job what duration sameFile (by omega) small carries
  have range : toInt32 t.offset = t.offset ↔ t.offset < 2 ^ 31 := by
    rw [toInt32_eq_self_iff]
    unfold FitsInt32
    omega
  rw [← range]
  constructor
  · rintro ⟨r, came, -, -, same, -⟩
    cases received.symm.trans came
    rw [offset, carries, job_offset] at same
    exact Json.numberInteger.inj (Option.some.inj same)
  · intro kept
    refine ⟨_, received, status, ?_, ?_, ?_⟩
    · have read := readChunk_inside started bound
      rw [isMatch, kept, read, decide_eq_true rfl]
    · rw [offset, carries, job_offset, kept]
    · rw [chunkSize, carries, job_chunkSize]

/-! ## A message and the text of it -/

/-- A unit of a producer whose source file is a.bin. -/
def unitMessage (j : Json) : WorkUnitMessage :=
  ⟨"BENCH", "a.bin", "", none, "prod-1-1", 1, "", "p", j, none⟩

/-- What dump makes of it. -/
def unitText (offset toRead seq : Int) (chunk : List UInt8) : String :=
  "\x7b\"job\":\x7b\"chunk_size\":" ++ toString toRead ++ ",\"data\":\"" ++
    String.ofList (base64Encode chunk) ++ "\",\"hash\":\"" ++ sha256Bytes chunk ++
    "\",\"offset\":" ++ toString offset ++ ",\"seq\":" ++ toString seq ++
    ",\"task\":\"BENCH\"\x7d,\"msg_type\":\"work_unit\",\"permutation\":\"\"," ++
    "\"producer_id\":\"p\",\"seq\":1,\"source_file\":\"a.bin\",\"test_type\":\"BENCH\"," ++
    "\"timestamp\":\"\",\"work_unit_id\":\"prod-1-1\"\x7d"

/-- dump and parse on one document. -/
def oneDocument (document : Json) (spelled : String) : JsonText where
  dump _ := spelled
  parse s := if s = spelled then .ok document else .error (.runtimeError "parse_error")

theorem undone_document (document : Json) (spelled : String) :
    (oneDocument document spelled).parse ((oneDocument document spelled).dump document) =
      .ok document := if_pos rfl

/-- Of the message with this job. -/
def unitJsonText (offset toRead seq : Int) (chunk : List UInt8) : JsonText :=
  oneDocument (unitMessage (job offset toRead seq chunk)).toJson (unitText offset toRead seq chunk)

/-- A consumer with a copy of the file in its directory. -/
def copied (content : List UInt8) : FileSystem where
  locate p := p
  node p := if p = Path.ofString "a.bin" then some (.file content) else none
  writable _ := false

theorem points_copied (content : List UInt8) : PointsAt (copied content) "a.bin" content := by
  have status : (copied content).status (Path.ofString "a.bin") = some (.file content) := by
    rw [FileSystem.status, copied]
    dsimp only
    exact if_pos rfl
  refine ⟨by decide, Path.ofString "a.bin", ?_, status⟩
  simp only [localPath, FileSystem.pathExists, status, bind, Except.bind, if_true, pure,
    Except.pure]

def sizeConfig (chunkSize : Int) : Option Json :=
  some (.object [("chunk_size", .numberInteger chunkSize)])

/-- The first unit of three bytes in chunks of two. -/
theorem handler_agrees_iff_first_unit :
    Agrees (unitJsonText 0 2 1 [1, 2]) (copied [1, 2, 3]) (fun _ => "") 0
      (unitMessage (job 0 2 1 [1, 2])) ↔ (0 : Int) < 2 ^ 31 :=
  handler_agrees_iff (unitJsonText 0 2 1 [1, 2]) (copied [1, 2, 3]) (fun _ => "") 0
    (sizeConfig 2) [1, 2, 3] (by decide) ⟨some [1, 2, 3], 2, 3, 0, 0, 0⟩ (.fresh rfl) 0
    ⟨some [1, 2, 3], 2, 3, 2, 0, 1⟩ (job 0 2 1 [1, 2]) rfl (unitMessage (job 0 2 1 [1, 2])) rfl
    (points_copied [1, 2, 3]) (undone_document _ _)

section Large
variable {content : List UInt8} {chunkSize : Int} {t : BenchState}

/-- A call before the end, with a positive chunk size. -/
theorem unit_before_end (fits : FitsInt64 content.length) (inside : t.Inside content chunkSize)
    (positive : 0 < chunkSize) (more : t.offset < content.length) :
    ∃ (toRead : Nat) (seq : Int) (chunk : List UInt8),
      (toRead : Int) = min chunkSize (content.length - t.offset) ∧
      t.nextUnit = .unit (createBenchPlugin.after t) (job t.offset toRead seq chunk) ∧
      (createBenchPlugin.after t).Inside content chunkSize ∧
      (createBenchPlugin.after t).offset = t.offset + toRead := by
  obtain ⟨next, j, call⟩ := nextUnit_of_more inside.source (by rw [inside.chunk]; exact positive)
    (by rw [inside.size]; exact more)
  obtain ⟨toRead, seq, count, -, -, after, offset, rfl⟩ := inside.unit fits call
  rw [after_of_unit call]
  exact ⟨toRead, seq, _, count, call, after, offset⟩

/-- In chunks of 2^30 the third unit of a file that is one byte longer than 2^31 begins
at 2^31. -/
theorem third_unit (size : content.length = 2 ^ 31 + 1) (fits : FitsInt64 content.length)
    (inside : t.Inside content (2 ^ 30)) (start : t.offset = 0) :
    ∃ seq chunk, (createBenchPlugin.after^[2] t).nextUnit =
      .unit (createBenchPlugin.after^[3] t) (job (2 ^ 31) 1 seq chunk) := by
  obtain ⟨first, -, -, firstCount, -, inside, firstEnd⟩ :=
    unit_before_end fits inside (by decide) (by omega)
  obtain ⟨second, -, -, secondCount, -, inside, secondEnd⟩ :=
    unit_before_end fits inside (by decide) (by omega)
  obtain ⟨third, seq, chunk, thirdCount, call, -, -⟩ :=
    unit_before_end fits inside (by decide) (by omega)
  have offset : (createBenchPlugin.after (createBenchPlugin.after t)).offset = 2 ^ 31 := by omega
  have last : (third : Int) = 1 := by omega
  rw [offset, last] at call
  exact ⟨seq, chunk, call⟩

end Large

/-- A plugin that is to read this content in chunks of 2^30. -/
def largeChunks (content : List UInt8) : BenchState :=
  ⟨some content, 2 ^ 30, toInt64 content.length, 0, 0, 0⟩

theorem startup_largeChunks (content : List UInt8) :
    (initPlugin (.bench (sizeConfig (2 ^ 30)) (some content))).startup .null =
      .ok (largeChunks content) := rfl

/-- At 2^31 the answer carries the offset -2^31. -/
theorem large_offset_disagrees :
    ¬ ∀ (text : JsonText) (fs : FileSystem) (what : Exception → String) (duration : Int)
      (chunkSize : Int) (content : List UInt8) (state next : BenchState) (n : Nat) (j : Json)
      (m : WorkUnitMessage), content.length < 2 ^ 63 →
      (initPlugin (.bench (sizeConfig chunkSize) (some content))).startup .null = .ok state →
      (createBenchPlugin.after^[n] state).nextUnit = .unit next j → m.job = j →
      PointsAt fs m.sourceFile content → text.parse (text.dump m.toJson) = .ok m.toJson →
      Agrees text fs what duration m := by
  intro claimed
  -- the file has 2^31 + 1 zeros
  obtain ⟨content, size⟩ : ∃ content : List UInt8, content.length = 2 ^ 31 + 1 :=
    ⟨List.replicate (2 ^ 31 + 1) 0, List.length_replicate⟩
  have fits : FitsInt64 content.length := by
    unfold FitsInt64
    omega
  have inside : (largeChunks content).Inside content (2 ^ 30) := by
    refine ⟨rfl, rfl, ?_, Int.le_refl 0⟩
    rw [largeChunks]
    dsimp only
    exact toInt64_of_fits fits
  obtain ⟨seq, chunk, call⟩ := third_unit size fits inside rfl
  obtain ⟨received, came, -, -, same, -⟩ := claimed (unitJsonText (2 ^ 31) 1 seq chunk)
    (copied content) (fun _ => "") 0 (2 ^ 30) content (largeChunks content) _ 2 _
    (unitMessage (job (2 ^ 31) 1 seq chunk)) (by omega) (startup_largeChunks content) call rfl
    (points_copied content) (undone_document _ _)
  have read : WorkUnitMessage.fromString (unitJsonText (2 ^ 31) 1 seq chunk)
      ((unitMessage (job (2 ^ 31) 1 seq chunk)).toString (unitJsonText (2 ^ 31) 1 seq chunk)) =
        .ok (unitMessage (job (2 ^ 31) 1 seq chunk)) := by
    rw [WorkUnitMessage.fromString, WorkUnitMessage.toString]
    exact (congrArg (· >>= WorkUnitMessage.fromJson) (undone_document _ _)).trans rfl
  cases read.symm.trans came
  have points : PointsAt (copied content) (unitMessage (job (2 ^ 31) 1 seq chunk)).sourceFile
    content := points_copied content
  obtain ⟨-, -, offset, -⟩ := handle_job (fun _ => "") 0 points Nat.one_pos (by decide) rfl
  rw [offset] at same
  exact absurd (Json.numberInteger.inj (Option.some.inj same)) (by decide)

end PnC.Guarantees.BenchAgreement
