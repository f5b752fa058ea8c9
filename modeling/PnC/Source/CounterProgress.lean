import PnC.Source.PluginProgress

/-!
# ECHO and BENCH across a checkpoint

Both plugins count. BENCH and an ECHO job with a total number of units stop before
their counters can wrap; an ECHO job without one goes round its counters in 2^64 units.
-/
namespace PnC.Source

open LoadedPlugin

/-! ## ECHO -/

namespace EchoState

/-- A configuration sets no counter, and its total is an int. -/
theorem configured_cases (config : Option Json) :
    FitsInt32 (configured config).totalUnits ∧
      (configured config).generated = 0 ∧ (configured config).seq = 0 := by
  cases config with
  | none => exact ⟨by decide, rfl, rfl⟩
  | some cfg =>
    change FitsInt32 (new.readConfig cfg).totalUnits ∧
      (new.readConfig cfg).generated = 0 ∧ (new.readConfig cfg).seq = 0
    have noUnits : FitsInt32 0 := by decide
    unfold readConfig
    split
    next => exact ⟨noUnits, rfl, rfl⟩
    next =>
      split
      next => exact ⟨noUnits, rfl, rfl⟩
      next totalUnits read => exact ⟨Json.fits_value noUnits read, rfl, rfl⟩

/-- What holds of every state of a producer with this configuration. -/
structure Counts (config : Option Json) (s : EchoState) : Prop where
  configured : s = { EchoState.configured config with generated := s.generated, seq := s.seq }
  generated : FitsInt64 s.generated
  seq : FitsInt64 s.seq
  limited : 0 < s.totalUnits → 0 ≤ s.generated ∧ s.generated ≤ s.totalUnits ∧ s.seq = s.generated

theorem Counts.totalUnits {config : Option Json} {s : EchoState} (counts : Counts config s) :
    FitsInt32 s.totalUnits := by
  rw [counts.configured]
  exact (configured_cases config).1

/-- A unit of a limited job counts one up, without wrapping. -/
theorem Counts.advance_limited {config : Option Json} {s : EchoState} (counts : Counts config s)
    (limited : 0 < s.totalUnits) (more : s.isDone = false) :
    s.advance.generated = s.generated + 1 ∧ s.advance.seq = s.generated + 1 := by
  obtain ⟨low, -, same⟩ := counts.limited limited
  have bound := counts.totalUnits
  have below : s.generated < s.totalUnits := by simpa [isDone, limited] using more
  have fits : FitsInt64 (s.generated + 1) := by
    unfold FitsInt32 at bound
    unfold FitsInt64
    omega
  rw [advance, same, toInt64_of_fits fits]
  exact ⟨rfl, rfl⟩

theorem after_echo (s : EchoState) :
    createEchoPlugin.after s = if s.isDone then s else s.advance := by
  cases done : s.isDone <;> simp [TestPlugin.after, createEchoPlugin, nextUnit, done]

theorem counts_after {config : Option Json} {s : EchoState} (counts : Counts config s) :
    Counts config (createEchoPlugin.after s) := by
  rw [after_echo]
  split
  next => exact counts
  next more =>
    constructor
    case configured =>
      unfold advance
      rw [counts.configured]
    case generated => exact fits_toInt64 _
    case seq => exact fits_toInt64 _
    case limited =>
      intro limited
      obtain ⟨low, -, same⟩ := counts.limited limited
      obtain ⟨generated, seq⟩ := counts.advance_limited limited (by simpa using more)
      have below : s.generated < s.totalUnits := by
        change 0 < s.totalUnits at limited
        simpa [isDone, limited] using more
      rw [generated, seq]
      exact ⟨by omega, below, rfl⟩

theorem startup_checkpoint (config : Option Json) (s : EchoState) :
    startup config s.checkpoint =
      .ok { configured config with generated := toInt64 s.generated, seq := toInt64 s.seq } := by
  simp [startup, checkpoint, resumeField, Json.isEmpty, Json.contains, Json.require, Json.find,
    Json.getInt64, List.lookup_cons, bind, Except.bind, pure, Except.pure]

theorem echo_resumable (config : Option Json) :
    (initPlugin (.echo config)).Resumable (Counts config) where
  fresh s started := by
    cases started
    obtain ⟨-, generated, seq⟩ := configured_cases config
    refine ⟨rfl, ?_, ?_, fun limited => ?_⟩
    · rw [generated]
      decide
    · rw [seq]
      decide
    · rw [generated, seq]
      exact ⟨Int.le_refl 0, Int.le_of_lt limited, rfl⟩
  after s counts := counts_after counts
  restore s counts := by
    refine (startup_checkpoint config s).trans ?_
    rw [toInt64_of_fits counts.generated, toInt64_of_fits counts.seq, ← counts.configured]
    rfl

/-- With a total number of units every unit has a number of its own. -/
theorem echo_progress (config : Option Json) (limited : 0 < (configured config).totalUnits) :
    createEchoPlugin.Progress (Counts config) (fun s t => s.generated ≤ t.generated) where
  refl s := Int.le_refl _
  trans r s t := Int.le_trans
  after s counts := by
    have isLimited : 0 < s.totalUnits := by
      rw [counts.configured]
      exact limited
    rw [after_echo]
    split
    next => exact Int.le_refl _
    next more =>
      rw [(counts.advance_limited isLimited (by simpa using more)).1]
      omega
  fresh s next t later job counts first countsLater order second := by
    have isLimited : ∀ {u : EchoState}, Counts config u → 0 < u.totalUnits := by
      intro u countsOf
      rw [countsOf.configured]
      exact limited
    simp only [createEchoPlugin, nextUnit] at first second
    split at first
    next => cases first
    next more =>
      split at second
      next => cases second
      next moreLater =>
        cases first
        obtain ⟨-, sameJob⟩ := NextUnit.unit.inj second
        have seqs : t.advance.seq = s.advance.seq := by
          simp only [EchoState.job, Json.object.injEq, List.cons.injEq, Prod.mk.injEq,
            Json.numberInteger.injEq] at sameJob
          exact sameJob.2.2.2.1.2
        obtain ⟨generated, seq⟩ := counts.advance_limited (isLimited counts) (by simpa using more)
        obtain ⟨-, seqLater⟩ :=
          countsLater.advance_limited (isLimited countsLater) (by simpa using moreLater)
        rw [generated] at order
        omega

theorem isDone_unlimited {s : EchoState} (unlimited : s.totalUnits ≤ 0) : s.isDone = false := by
  simp only [isDone, decide_eq_false_iff_not]
  omega

/-- Without one, `n` calls take the counters `n` further around. -/
theorem iterate_unlimited {s : EchoState} (unlimited : s.totalUnits ≤ 0) (seq : FitsInt64 s.seq)
    (generated : FitsInt64 s.generated) (n : Nat) :
    createEchoPlugin.after^[n] s =
      { s with seq := toInt64 (s.seq + n), generated := toInt64 (s.generated + n) } := by
  induction n with
  | zero =>
    rw [Function.iterate_zero_apply, Int.natCast_zero, Int.add_zero, Int.add_zero,
      toInt64_of_fits seq, toInt64_of_fits generated]
  | succ n ih =>
    rw [Function.iterate_succ_apply', ih, after_echo, isDone_unlimited (by exact unlimited)]
    simp only [advance, toInt64, Int.bmod_add_bmod, Int.add_assoc, Int.natCast_succ,
      Bool.false_eq_true, if_false]

/-- Its numbers come round again behind 2^64 units. -/
theorem repeatsLate_unlimited {s : EchoState} (unlimited : s.totalUnits ≤ 0)
    (seq : FitsInt64 s.seq) (generated : FitsInt64 s.generated) :
    createEchoPlugin.RepeatsLate s := by
  have call (n : Nat) : createEchoPlugin.nextUnit (createEchoPlugin.after^[n] s) =
      .unit (createEchoPlugin.after^[n] s).advance (createEchoPlugin.after^[n] s).advance.job := by
    rw [iterate_unlimited unlimited seq generated]
    exact if_neg (by rw [isDone_unlimited (by exact unlimited)]; exact Bool.false_ne_true)
  have number (n : Nat) : (createEchoPlugin.after^[n] s).advance.seq = toInt64 (s.seq + n + 1) := by
    rw [iterate_unlimited unlimited seq generated]
    simp only [advance, toInt64, Int.bmod_add_bmod]
  intro m n job order first second
  obtain ⟨next, first⟩ := first
  obtain ⟨later, second⟩ := second
  have sameJob := (NextUnit.unit.inj ((call m).symm.trans first)).2.trans
    (NextUnit.unit.inj ((call n).symm.trans second)).2.symm
  have sameSeq : toInt64 (s.seq + m + 1) = toInt64 (s.seq + n + 1) := by
    simp only [EchoState.job, Json.object.injEq, List.cons.injEq, Prod.mk.injEq,
      Json.numberInteger.injEq] at sameJob
    rw [← number, ← number]
    exact sameJob.2.2.2.1.2
  have rest : (s.seq + m + 1) % (2 ^ 64 : Nat) = (s.seq + n + 1) % (2 ^ 64 : Nat) := by
    have both := congrArg (· % ((2 ^ 64 : Nat) : Int)) sameSeq
    simpa only [toInt64, Int.bmod_emod] using both
  refine ⟨by omega, fun k => ⟨_, _, call k⟩⟩

end EchoState

/-! ## BENCH -/

namespace BenchState

theorem configured_counters (config : Option Json) :
    (configured config).offset = 0 ∧ (configured config).seq = 0 ∧
      (configured config).sourceFile = none := by
  cases config with
  | none => exact ⟨rfl, rfl, rfl⟩
  | some cfg =>
    change (new.readConfig cfg).offset = 0 ∧ (new.readConfig cfg).seq = 0 ∧
      (new.readConfig cfg).sourceFile = none
    unfold readConfig
    split <;> exact ⟨rfl, rfl, rfl⟩

theorem givenSource_counters (s : BenchState) (offset seq : Int)
    (sourceFile : Option (List UInt8)) :
    givenSource { s with offset := offset, seq := seq } sourceFile =
      (s.givenSource sourceFile).map fun t => { t with offset := offset, seq := seq } := by
  cases sourceFile with
  | none => rfl
  | some content =>
    unfold givenSource setBenchSourceFile
    by_cases undivided : s.chunkSize = 0
    · simp only [undivided, if_true, Except.map]
    · simp only [undivided, if_false, Except.map]

theorem givenSource_spec {s t : BenchState} {sourceFile : Option (List UInt8)}
    (unset : s.sourceFile = none) (given : s.givenSource sourceFile = .ok t) :
    t.offset = s.offset ∧ t.seq = s.seq ∧
      ∀ content, t.sourceFile = some content → t.chunkSize ≠ 0 ∧ FitsInt64 t.fileSize := by
  unfold givenSource setBenchSourceFile at given
  split at given
  next content =>
    split at given
    next => cases given
    next divisible =>
      cases given
      refine ⟨rfl, rfl, fun _ _ => ⟨divisible, ?_⟩⟩
      dsimp only
      exact fits_toInt64 _
  next =>
    cases given
    exact ⟨rfl, rfl, fun _ present => by rw [unset] at present; cases present⟩

/-- What holds of every state of a producer with this configuration: but for its
counters it is the state of a new one. -/
structure Reads (config : Option Json) (sourceFile : Option (List UInt8)) (s : BenchState) :
    Prop where
  configured : (configured config).givenSource sourceFile = .ok { s with offset := 0, seq := 0 }
  started : 0 ≤ s.offset
  offset : FitsInt64 s.offset
  seq : FitsInt64 s.seq

theorem startup_checkpoint (config : Option Json) (s : BenchState) :
    startup config s.checkpoint =
      .ok { configured config with offset := toInt64 s.offset, seq := toInt64 s.seq } := by
  simp [startup, checkpoint, resumeField, Json.isEmpty, Json.contains, Json.require, Json.find,
    Json.getInt64, List.lookup_cons, bind, Except.bind, pure, Except.pure]

/-- A unit moves the offset on by the bytes it reads, at least one, without wrapping. -/
theorem Reads.nextUnit_unit {config : Option Json} {sourceFile : Option (List UInt8)}
    {s next : BenchState} {j : Json} (reads : Reads config sourceFile s)
    (call : s.nextUnit = .unit next j) :
    ∃ toRead seq chunk, 0 < toRead ∧ FitsInt64 seq ∧ FitsInt64 (s.offset + toRead) ∧
      next = { s with seq := seq, offset := s.offset + toRead } ∧
        j = job s.offset toRead seq chunk := by
  have source := (givenSource_spec (configured_counters config).2.2 reads.configured).2.2
  have started := reads.started
  unfold nextUnit at call
  split at call
  next => cases call
  next content present =>
    obtain ⟨divisible, size⟩ := source content present
    split at call
    next => cases call
    next more =>
      dsimp only at call divisible size
      split at call
      next => cases call
      next =>
        have fits : FitsInt64 (s.offset + min s.chunkSize (s.fileSize - s.offset)) := by
          unfold FitsInt64 at size ⊢
          omega
        cases call
        refine ⟨_, _, _, by omega, fits_toInt64 _, fits, ?_, rfl⟩
        rw [toInt64_of_fits fits]

/-- A call that gives no unit leaves the state alone. -/
theorem after_bench (s : BenchState) :
    createBenchPlugin.after s = s ∨ ∃ j, s.nextUnit = .unit (createBenchPlugin.after s) j := by
  unfold TestPlugin.after createBenchPlugin
  dsimp only
  cases call : s.nextUnit with
  | unit next j => exact Or.inr ⟨j, rfl⟩
  | stuck => exact Or.inl rfl
  | exhausted | threw =>
    refine Or.inl ?_
    dsimp only
    unfold nextUnit at call
    grind

theorem Reads.after {config : Option Json} {sourceFile : Option (List UInt8)} {s : BenchState}
    (reads : Reads config sourceFile s) :
    Reads config sourceFile (createBenchPlugin.after s) ∧
      s.offset ≤ (createBenchPlugin.after s).offset := by
  rcases after_bench s with idle | ⟨j, call⟩
  · rw [idle]
    exact ⟨reads, Int.le_refl _⟩
  · obtain ⟨toRead, seq, chunk, positive, fitsSeq, fits, next, -⟩ := reads.nextUnit_unit call
    have started := reads.started
    rw [next]
    exact ⟨⟨reads.configured, by dsimp only; omega, fits, fitsSeq⟩, by dsimp only; omega⟩

theorem bench_resumable (config : Option Json) (sourceFile : Option (List UInt8)) :
    (initPlugin (.bench config sourceFile)).Resumable (Reads config sourceFile) where
  fresh s started := by
    change (configured config).givenSource sourceFile = .ok s at started
    obtain ⟨noOffset, noSeq, unset⟩ := configured_counters config
    obtain ⟨offset, seq, -⟩ := givenSource_spec unset started
    rw [noOffset] at offset
    rw [noSeq] at seq
    refine ⟨?_, ?_, ?_, ?_⟩
    · rw [started]
      exact congrArg Except.ok (BenchState.mk.injEq .. ▸ ⟨rfl, rfl, rfl, offset, rfl, seq⟩)
    · exact Int.le_of_eq offset.symm
    · rw [offset]
      decide
    · rw [seq]
      decide
  after s reads := (reads.after).1
  restore s reads := by
    refine (congrArg (· >>= fun t => t.givenSource sourceFile)
      (startup_checkpoint config s)).trans ?_
    rw [toInt64_of_fits reads.offset, toInt64_of_fits reads.seq]
    refine (givenSource_counters (configured config) s.offset s.seq sourceFile).trans ?_
    rw [reads.configured]
    rfl

theorem bench_progress (config : Option Json) (sourceFile : Option (List UInt8)) :
    createBenchPlugin.Progress (Reads config sourceFile) (fun s t => s.offset ≤ t.offset) where
  refl s := Int.le_refl _
  trans r s t := Int.le_trans
  after s reads := (reads.after).2
  fresh s next t later j reads first readsLater order second := by
    obtain ⟨toRead, seq, chunk, positive, -, -, rfl, job⟩ := reads.nextUnit_unit first
    obtain ⟨toRead', seq', chunk', -, -, -, -, jobLater⟩ := readsLater.nextUnit_unit second
    rw [job] at jobLater
    have offsets : s.offset = t.offset := by
      simp only [BenchState.job, Json.object.injEq, List.cons.injEq, Prod.mk.injEq,
        Json.numberInteger.injEq] at jobLater
      exact jobLater.2.1.2
    dsimp only at order
    omega

end BenchState

end PnC.Source
