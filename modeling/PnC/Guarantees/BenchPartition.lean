import PnC.Source.BenchUnits

/-!
# BENCH chunks partition the file

After any number of successful calls of next_unit the decoded chunks are the source file
up to the offset, cut where the jobs say, and the plugin stops when they are all of it.
-/
namespace PnC.Guarantees.BenchPartition

open PnC.Source PnC.Source.BenchState

/-- What the jobs given so far say about a file with this content: each begins where the
ones before it end, and together they are what lies before the offset. -/
structure Cut (content : List UInt8) (jobs : List Json) (t : BenchState) : Prop where
  contiguous : ∀ (i : Nat) (j : Json), jobs[i]? = some j →
    j.find "offset" = some (.numberInteger ((jobs.take i).flatMap decoded).length)
  sized : ∀ j ∈ jobs, j.find "chunk_size" = some (.numberInteger (decoded j).length)
  hashed : ∀ j ∈ jobs, j.find "hash" = some (.string (sha256Bytes (decoded j)))
  bounded : t.offset ≤ content.length
  covered : jobs.flatMap decoded = content.take t.offset.toNat

/-- And when the plugin that gave them stops. -/
structure Partition (content : List UInt8) (jobs : List Json) (t : BenchState) : Prop extends
    Cut content jobs t where
  reached : ((jobs.flatMap decoded).length : Int) = t.offset
  done : t.isDone = true ↔ jobs.flatMap decoded = content
  stops : (∃ u, t.nextUnit = .exhausted u) ↔ jobs.flatMap decoded = content

section Calls
variable {content : List UInt8} {chunkSize : Int} {jobs : List Json} {t next : BenchState}
  {job : Json}

theorem Cut.length (cut : Cut content jobs t) (started : 0 ≤ t.offset) :
    ((jobs.flatMap decoded).length : Int) = t.offset := by
  have bounded := cut.bounded
  rw [cut.covered, List.length_take]
  omega

/-- One more unit: its chunk begins where the chunks before it end. -/
theorem Cut.unit (fits : FitsInt64 content.length) (inside : t.Inside content chunkSize)
    (cut : Cut content jobs t) (call : t.nextUnit = .unit next job) :
    Cut content (jobs ++ [job]) next := by
  have started := inside.started
  have reached := cut.length started
  obtain ⟨toRead, seq, -, bound, -, -, offset, rfl⟩ := inside.unit fits call
  have full : ((content.drop t.offset.toNat).take toRead).length = toRead := by
    rw [List.length_take, List.length_drop]
    omega
  constructor
  case contiguous =>
    intro i j found
    rcases Nat.lt_or_ge i jobs.length with before | last
    · rw [List.getElem?_append_left before] at found
      rw [List.take_append_of_le_length (Nat.le_of_lt before)]
      exact cut.contiguous i j found
    · rw [List.getElem?_append_right last] at found
      have here : i - jobs.length = 0 := by
        have inRange := (List.getElem?_eq_some_iff.mp found).1
        rw [List.length_singleton] at inRange
        omega
      rw [here] at found
      cases found
      rw [job_offset, Nat.le_antisymm (Nat.le_of_sub_eq_zero here) last, List.take_left, reached]
  case sized =>
    intro j member
    rcases List.mem_append.mp member with earlier | here
    · exact cut.sized j earlier
    · cases List.mem_singleton.mp here
      rw [job_chunkSize, decoded_job, full]
  case hashed =>
    intro j member
    rcases List.mem_append.mp member with earlier | here
    · exact cut.hashed j earlier
    · cases List.mem_singleton.mp here
      rw [job_hash, decoded_job]
  case bounded =>
    rw [offset]
    exact bound
  case covered =>
    have ahead : (t.offset + toRead).toNat = t.offset.toNat + toRead := by omega
    rw [List.flatMap_append, cut.covered, List.flatMap_singleton, decoded_job, offset, ahead,
      List.take_add]

/-- Both facts about a plugin hold after any number of units. -/
theorem cut_of_emits {s : BenchState} (fits : FitsInt64 content.length)
    (inside : s.Inside content chunkSize) (fresh : s.offset = 0)
    (emitted : createBenchPlugin.Emits s jobs t) :
    t.Inside content chunkSize ∧ Cut content jobs t := by
  induction emitted with
  | none =>
    refine ⟨inside, ?_, ?_, ?_, ?_, ?_⟩
    · intro i j found
      cases found
    · intro j member
      cases member
    · intro j member
      cases member
    · rw [fresh]
      exact Int.natCast_nonneg _
    · rw [fresh]
      rfl
  | unit before call ih =>
    obtain ⟨inside, cut⟩ := ih
    obtain ⟨-, -, -, -, -, after, -⟩ := inside.unit fits call
    exact ⟨after, cut.unit fits inside call⟩

/-- The prefix read so far is the whole file exactly when the plugin is done. -/
theorem Cut.done_iff (inside : t.Inside content chunkSize) (cut : Cut content jobs t) :
    t.isDone = true ↔ jobs.flatMap decoded = content := by
  have started := inside.started
  have bounded := cut.bounded
  have reached := cut.length started
  rw [isDone, decide_eq_true_iff, inside.size]
  constructor
  · intro ended
    rw [cut.covered]
    exact List.take_of_length_le (by omega)
  · intro whole
    rw [whole] at reached
    omega

end Calls

/-- From a fresh start, for every content, every configuration that startup and
set_bench_source_file return from, and every number of units. -/
theorem chunks_partition (config : Option Json) (content : List UInt8)
    (size : content.length < 2 ^ 63) (s : BenchState)
    (started : (initPlugin (.bench config (some content))).startup .null = .ok s)
    (jobs : List Json) (t : BenchState) (emitted : createBenchPlugin.Emits s jobs t) :
    Partition content jobs t := by
  have fits : FitsInt64 content.length := by
    unfold FitsInt64
    omega
  have fresh := (configured_counters config).1
  change (configured config).setBenchSourceFile content = .ok s at started
  obtain ⟨inside, offset, -⟩ := inside_of_given fits (Int.le_of_eq fresh.symm) started
  obtain ⟨here, cut⟩ := cut_of_emits fits inside (offset.trans fresh) emitted
  constructor
  case toCut => exact cut
  case reached => exact cut.length here.started
  case done => exact cut.done_iff here
  case stops => exact (nextUnit_exhausted_iff here.source).trans (cut.done_iff here)

/-- A plugin for three bytes in chunks of two, after `seq` units that end at `offset`. -/
def threeBytes (offset seq : Int) : BenchState := ⟨some [1, 2, 3], 2, 3, offset, 0, seq⟩

theorem chunks_partition_three_bytes :
    Partition [1, 2, 3] [job 0 2 1 [1, 2], job 2 1 2 [3]] (threeBytes 3 2) :=
  chunks_partition (some (.object [("chunk_size", .numberInteger 2)])) [1, 2, 3] (by decide)
    (threeBytes 0 0) rfl [job 0 2 1 [1, 2], job 2 1 2 [3]] (threeBytes 3 2)
    (.unit (s := threeBytes 2 1) (.unit .none rfl) rfl)

end PnC.Guarantees.BenchPartition
