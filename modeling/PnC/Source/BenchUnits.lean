import PnC.Source.Base64
import PnC.Source.CounterProgress

/-!
# The units of the BENCH plugin

What next_unit reads of an unchanged source file, what the job says about it, and runs
of successful calls.
-/
namespace PnC.Source

namespace TestPlugin

/-- Successful calls of next_unit one after the other, with their jobs. -/
inductive Emits {σ : Type} (plugin : TestPlugin σ) (start : σ) : List Json → σ → Prop where
  | none : Emits plugin start [] start
  | unit {jobs : List Json} {s next : σ} {job : Json} (before : Emits plugin start jobs s)
      (call : plugin.nextUnit s = .unit next job) : Emits plugin start (jobs ++ [job]) next

end TestPlugin

namespace BenchState

/-- The bytes of a job, as base64_decode gives them. -/
def decoded (job : Json) : List UInt8 :=
  match job.find "data" with
  | some (.string text) => base64Decode text.toUTF8.data.toList
  | _ => []

section Job
variable (offset toRead seq : Int) (chunk : List UInt8)

theorem decoded_job : decoded (job offset toRead seq chunk) = chunk := decode_encode chunk

theorem job_offset : (job offset toRead seq chunk).find "offset" = some (.numberInteger offset) :=
  rfl

theorem job_chunkSize :
    (job offset toRead seq chunk).find "chunk_size" = some (.numberInteger toRead) := rfl

theorem job_hash :
    (job offset toRead seq chunk).find "hash" = some (.string (sha256Bytes chunk)) := rfl

end Job

/-- What file.read finds where the file is long enough. -/
theorem readChunk_inside {content : List UInt8} {offset : Int} {toRead : Nat}
    (started : 0 ≤ offset) (inside : offset + toRead ≤ content.length) :
    readChunk content offset toRead = (content.drop offset.toNat).take toRead := by
  have full : ((content.drop offset.toNat).take toRead).length = toRead := by
    rw [List.length_take, List.length_drop]
    omega
  rw [readChunk, if_neg (Int.not_lt.mpr started), List.rightpad, full, Nat.sub_self]
  exact List.append_nil _

theorem length_readChunk (content : List UInt8) (offset : Int) (toRead : Nat) :
    (readChunk content offset toRead).length = toRead := by
  unfold readChunk
  split
  · exact List.length_replicate
  · rw [List.length_rightpad, List.length_take]
    omega

variable {s next : BenchState} {content : List UInt8} {j : Json}

/-- A call that gives a unit, on a source file with this content. -/
theorem nextUnit_reads (source : s.sourceFile = some content) (call : s.nextUnit = .unit next j) :
    s.offset < s.fileSize ∧ 0 ≤ min s.chunkSize (s.fileSize - s.offset) ∧
      next = { s with
        seq := toInt64 (s.seq + 1)
        offset := toInt64 (s.offset + min s.chunkSize (s.fileSize - s.offset)) } ∧
      j = job s.offset (min s.chunkSize (s.fileSize - s.offset)) (toInt64 (s.seq + 1))
        (readChunk content s.offset (min s.chunkSize (s.fileSize - s.offset)).toNat) := by
  unfold nextUnit at call
  split at call
  next => cases call
  next found present =>
    cases present.symm.trans source
    split at call
    next => cases call
    next more =>
      dsimp only at call
      split at call
      next => cases call
      next positive =>
        cases call
        exact ⟨by omega, by omega, rfl, rfl⟩

/-- The calls that give no unit: the file is exhausted, or what is to be read is negative. -/
theorem nextUnit_exhausted_iff (source : s.sourceFile = some content) :
    (∃ t, s.nextUnit = .exhausted t) ↔ s.isDone = true := by
  unfold nextUnit isDone
  rw [source, decide_eq_true_iff]
  dsimp only
  constructor
  · rintro ⟨t, call⟩
    split at call
    next ended => exact ended
    next => split at call <;> cases call
  · intro ended
    exact ⟨s, if_pos ended⟩

/-- The call asks for a vector of negative size. -/
theorem nextUnit_threw_iff (source : s.sourceFile = some content) :
    (∃ t what, s.nextUnit = .threw t what) ↔ s.chunkSize < 0 ∧ s.offset < s.fileSize := by
  unfold nextUnit
  rw [source]
  dsimp only
  constructor
  · rintro ⟨t, what, call⟩
    split at call
    next => cases call
    next more =>
      split at call
      next negative => omega
      next => cases call
  · rintro ⟨negative, more⟩
    refine ⟨s, .lengthError, ?_⟩
    rw [if_neg (by omega), if_pos (by omega)]

/-- A call with a positive chunk size before the end. -/
theorem nextUnit_of_more (source : s.sourceFile = some content) (positive : 0 < s.chunkSize)
    (more : s.offset < s.fileSize) : ∃ t j, s.nextUnit = .unit t j := by
  unfold nextUnit
  rw [source]
  dsimp only
  rw [if_neg (by omega), if_neg (by omega)]
  exact ⟨_, _, rfl⟩

theorem after_of_unit (call : s.nextUnit = .unit next j) : createBenchPlugin.after s = next := by
  unfold TestPlugin.after createBenchPlugin
  dsimp only
  rw [call]

/-- A plugin that has been given a source file, in the middle of it. -/
structure Inside (content : List UInt8) (chunkSize : Int) (s : BenchState) : Prop where
  source : s.sourceFile = some content
  chunk : s.chunkSize = chunkSize
  size : s.fileSize = content.length
  started : 0 ≤ s.offset

theorem inside_of_given {t : BenchState} (fits : FitsInt64 content.length) (started : 0 ≤ s.offset)
    (given : s.setBenchSourceFile content = .ok t) :
    t.Inside content s.chunkSize ∧ t.offset = s.offset ∧ t.chunkSize ≠ 0 := by
  unfold setBenchSourceFile at given
  split at given
  next => cases given
  next divisible =>
    cases given
    refine ⟨⟨rfl, rfl, ?_, started⟩, rfl, divisible⟩
    dsimp only
    exact toInt64_of_fits fits

/-- A unit moves the offset to the end of what it has read. -/
theorem Inside.unit {chunkSize : Int} (inside : s.Inside content chunkSize)
    (fits : FitsInt64 content.length) (call : s.nextUnit = .unit next j) :
    ∃ (toRead : Nat) (seq : Int), (toRead : Int) = min chunkSize (content.length - s.offset) ∧
      s.offset + toRead ≤ content.length ∧ s.offset < content.length ∧
      next.Inside content chunkSize ∧ next.offset = s.offset + toRead ∧
      j = job s.offset toRead seq ((content.drop s.offset.toNat).take toRead) := by
  obtain ⟨more, positive, next, job⟩ := nextUnit_reads inside.source call
  have started := inside.started
  rw [inside.chunk, inside.size] at positive next job
  rw [inside.size] at more
  obtain ⟨toRead, count⟩ := Int.eq_ofNat_of_zero_le positive
  have bound : s.offset + toRead ≤ content.length := by omega
  have reached : FitsInt64 (s.offset + toRead) := by
    unfold FitsInt64 at fits ⊢
    omega
  have read : readChunk content s.offset toRead = (content.drop s.offset.toNat).take toRead :=
    readChunk_inside started bound
  rw [count, toInt64_of_fits reached] at next
  rw [count, Int.toNat_natCast, read] at job
  refine ⟨toRead, toInt64 (s.seq + 1), count.symm, bound, more, ?_, by rw [next], job⟩
  rw [next]
  exact ⟨inside.source, rfl, rfl, Int.add_nonneg started (Int.natCast_nonneg _)⟩

theorem Inside.after {chunkSize : Int} (inside : s.Inside content chunkSize)
    (fits : FitsInt64 content.length) :
    (createBenchPlugin.after s).Inside content chunkSize := by
  rcases after_bench s with idle | ⟨j, call⟩
  · rw [idle]
    exact inside
  · obtain ⟨-, -, -, -, -, after, -⟩ := inside.unit fits call
    exact after

theorem Inside.iterate {chunkSize : Int} (inside : s.Inside content chunkSize)
    (fits : FitsInt64 content.length) (n : Nat) :
    (createBenchPlugin.after^[n] s).Inside content chunkSize := by
  induction n with
  | zero => exact inside
  | succ n ih =>
    rw [Function.iterate_succ_apply']
    exact ih.after fits

end BenchState

end PnC.Source
