import PnC.Library.ExceptBind
import PnC.Source.BenchUnits

/-!
# The chunk sizes that BENCH can work with

Nothing checks chunk_size. At 0 set_bench_source_file divides by it, and below 0
next_unit asks for a vector of that size, unless there is nothing left to read.
-/
namespace PnC.Guarantees.BenchChunkSizes

open PnC.Library PnC.Source PnC.Source.BenchState

/-- After startup has left `s`: no division by zero, no buffer of negative size, an offset
that every unit moves on, and an end. -/
def Tolerates (content : List UInt8) (s : BenchState) : Prop :=
  ∃ t, s.setBenchSourceFile content = .ok t ∧
    (∀ n u what, (createBenchPlugin.after^[n] t).nextUnit ≠ .threw u what) ∧
    (∀ n next job, (createBenchPlugin.after^[n] t).nextUnit = .unit next job →
      (createBenchPlugin.after^[n] t).offset < next.offset) ∧
    ∃ n, (createBenchPlugin.after^[n] t).isDone = true

section Given
variable {content : List UInt8} {chunkSize : Int} {t next : BenchState} {job : Json}

/-- With a positive chunk size every unit has at least one byte. -/
theorem offset_lt_of_unit (fits : FitsInt64 content.length) (inside : t.Inside content chunkSize)
    (positive : 1 ≤ chunkSize) (call : t.nextUnit = .unit next job) : t.offset < next.offset := by
  obtain ⟨toRead, seq, count, bound, more, -, offset, -⟩ := inside.unit fits call
  omega

/-- One call for every byte that is left is enough. -/
theorem exhausted_after (fits : FitsInt64 content.length) (positive : 1 ≤ chunkSize)
    (ahead : Nat) (inside : t.Inside content chunkSize)
    (bound : (content.length : Int) - t.offset ≤ ahead) :
    (createBenchPlugin.after^[ahead] t).isDone = true := by
  induction ahead generalizing t with
  | zero =>
    rw [Function.iterate_zero_apply, isDone, decide_eq_true_iff, inside.size]
    omega
  | succ ahead ih =>
    rw [Function.iterate_succ_apply]
    apply ih (inside.after fits)
    rcases after_bench t with idle | ⟨j, call⟩
    · -- the call gave no unit, so the end was reached before it
      have ended : (content.length : Int) ≤ t.offset := by
        by_contra more
        obtain ⟨u, j, call⟩ := nextUnit_of_more inside.source (by rw [inside.chunk]; omega)
          (by rw [inside.size]; omega)
        have further := offset_lt_of_unit fits inside positive call
        rw [← after_of_unit call, idle] at further
        omega
      rw [idle]
      omega
    · have further := offset_lt_of_unit fits inside positive call
      omega

/-- Without a byte left a plugin of any chunk size answers false, and stays as it is. -/
theorem idle_of_done (inside : t.Inside content chunkSize) (ended : t.isDone = true) :
    createBenchPlugin.after t = t := by
  obtain ⟨u, call⟩ := (nextUnit_exhausted_iff inside.source).mpr ended
  rcases after_bench t with idle | ⟨j, unit⟩
  · exact idle
  · rw [unit] at call
    cases call

theorem tolerates_of_positive (fits : FitsInt64 content.length)
    (inside : t.Inside content chunkSize) (positive : 1 ≤ chunkSize) :
    (∀ n u what, (createBenchPlugin.after^[n] t).nextUnit ≠ .threw u what) ∧
    (∀ n next job, (createBenchPlugin.after^[n] t).nextUnit = .unit next job →
      (createBenchPlugin.after^[n] t).offset < next.offset) ∧
    ∃ n, (createBenchPlugin.after^[n] t).isDone = true := by
  refine ⟨?_, ?_, ?_⟩
  · intro n u what call
    have here := inside.iterate fits n
    obtain ⟨negative, -⟩ := (nextUnit_threw_iff here.source).mp ⟨u, what, call⟩
    rw [here.chunk] at negative
    omega
  · intro n next job call
    exact offset_lt_of_unit fits (inside.iterate fits n) positive call
  · exact ⟨_, exhausted_after fits positive ((content.length : Int) - t.offset).toNat inside
      (by omega)⟩

theorem tolerates_of_done (inside : t.Inside content chunkSize) (ended : t.isDone = true) :
    (∀ n u what, (createBenchPlugin.after^[n] t).nextUnit ≠ .threw u what) ∧
    (∀ n next job, (createBenchPlugin.after^[n] t).nextUnit = .unit next job →
      (createBenchPlugin.after^[n] t).offset < next.offset) ∧
    ∃ n, (createBenchPlugin.after^[n] t).isDone = true := by
  obtain ⟨u, call⟩ := (nextUnit_exhausted_iff inside.source).mpr ended
  have still : ∀ n, createBenchPlugin.after^[n] t = t :=
    fun n => Function.iterate_fixed (idle_of_done inside ended) n
  refine ⟨?_, ?_, ⟨0, ended⟩⟩
  · intro n v what threw
    rw [still n, call] at threw
    cases threw
  · intro n next job unit
    rw [still n, call] at unit
    cases unit

end Given

/-- startup keeps the chunk size of the configuration. -/
theorem chunkSize_of_startup {config : Option Json} {resume : Json} {s : BenchState}
    (started : startup config resume = .ok s) : s.chunkSize = (configured config).chunkSize := by
  unfold startup at started
  dsimp only at started
  split at started
  next =>
    cases started
    rfl
  next =>
    obtain ⟨offset, -, started⟩ := bind_eq_ok.mp started
    obtain ⟨processed, -, started⟩ := bind_eq_ok.mp started
    obtain ⟨seq, -, started⟩ := bind_eq_ok.mp started
    cases started
    rfl

/-- For every configuration, every content and every start at an offset of the file or
behind it: all goes well exactly with a positive chunk size, or with a negative one and
nothing left to read. -/
theorem chunk_size_tolerated_iff (config : Option Json) (resume : Json) (content : List UInt8)
    (size : content.length < 2 ^ 63) (s : BenchState) (started : startup config resume = .ok s)
    (ahead : 0 ≤ s.offset) :
    Tolerates content s ↔
      1 ≤ (configured config).chunkSize ∨
        (configured config).chunkSize < 0 ∧ (content.length : Int) ≤ s.offset := by
  have fits : FitsInt64 content.length := by
    unfold FitsInt64
    omega
  rw [← chunkSize_of_startup started]
  constructor
  · rintro ⟨t, given, sized, -, -⟩
    obtain ⟨inside, offset, divisible⟩ := inside_of_given fits ahead given
    by_contra outside
    have chunk := inside.chunk
    have size := inside.size
    obtain ⟨u, what, call⟩ := (nextUnit_threw_iff inside.source).mpr ⟨by omega, by omega⟩
    exact sized 0 u what call
  · intro good
    have divisible : s.chunkSize ≠ 0 := by omega
    have given : s.setBenchSourceFile content = .ok _ := if_neg divisible
    obtain ⟨inside, offset, -⟩ := inside_of_given fits ahead given
    refine ⟨_, given, ?_⟩
    rcases good with positive | ⟨-, ended⟩
    · exact tolerates_of_positive fits inside positive
    · refine tolerates_of_done inside ?_
      rw [isDone, decide_eq_true_iff, inside.size, offset]
      exact ended

/-- A config file that says nothing but the chunk size. -/
def sizeConfig (chunkSize : Int) : Option Json :=
  some (.object [("chunk_size", .numberInteger chunkSize)])

theorem chunk_size_tolerated_iff_two :
    Tolerates [1, 2, 3] ⟨none, 2, 0, 0, 0, 0⟩ ↔
      1 ≤ (configured (sizeConfig 2)).chunkSize ∨
        (configured (sizeConfig 2)).chunkSize < 0 ∧ (3 : Int) ≤ 0 :=
  chunk_size_tolerated_iff (sizeConfig 2) .null [1, 2, 3] (by decide) ⟨none, 2, 0, 0, 0, 0⟩ rfl
    (Int.le_refl 0)

/-- A chunk size of 0 is read, and divided by. -/
theorem zero_chunk_size_divides :
    ¬ ∀ (chunkSize : Int) (content : List UInt8) (s : BenchState), content.length < 2 ^ 63 →
      startup (sizeConfig chunkSize) .null = .ok s → Tolerates content s := by
  intro claimed
  obtain ⟨t, given, -⟩ := claimed 0 [1] ⟨none, 0, 0, 0, 0, 0⟩ (by decide) rfl
  have divided : setBenchSourceFile ⟨none, 0, 0, 0, 0, 0⟩ [1] =
      .error (.fault .divisionByZero) := rfl
  rw [divided] at given
  cases given

end PnC.Guarantees.BenchChunkSizes
