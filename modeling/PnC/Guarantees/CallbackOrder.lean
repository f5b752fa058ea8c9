import PnC.Guarantees.PoolParallelism

/-!
# The result callbacks of a pool run one after the other

callback_mutex_ is held around the whole of a callback. What the callbacks have done to what
they capture is therefore the effects of the results that were passed, whole results in
the order in which they were passed, and the first effects of the last one while its callback
runs.
-/
namespace PnC.Guarantees.CallbackOrder

open PnC.Library PnC.Source
open PoolParallelism (MutexHeldOnce mutexTaken mutexHeldOnce_step mutexHeldOnce_start)

variable {κ : Type} {config : PoolConfig κ}

/-- The effects of a callback, one after the other. -/
def applyEffects (effects : List (κ → κ)) (k : κ) : κ := effects.foldl (fun k effect => effect k) k

/-- What whole callbacks make of what they capture. -/
def afterResults (callback : ResultMessage → List (κ → κ)) (k : κ) (results : List ResultMessage) :
    κ :=
  results.foldl (fun k result => applyEffects (callback result) k) k

theorem applyEffects_append (first second : List (κ → κ)) (k : κ) :
    applyEffects (first ++ second) k = applyEffects second (applyEffects first k) :=
  List.foldl_append ..

theorem afterResults_snoc (callback : ResultMessage → List (κ → κ)) (k : κ)
    (results : List ResultMessage) (result : ResultMessage) :
    afterResults callback k (results ++ [result]) =
      applyEffects (callback result) (afterResults callback k results) :=
  List.foldl_append ..

/-- The result whose callback the worker is in, and the effects that are still to come. -/
def calling : WorkerPhase κ → Multiset (ResultMessage × List (κ → κ))
  | .reporting _ result rest => {(result, rest)}
  | _ => 0

theorem card_calling_le (phase : WorkerPhase κ) : (calling phase).card ≤ phase.holdsMutex := by
  cases phase <;> simp [calling, WorkerPhase.holdsMutex]

/-- The idle callback has no effects on what is captured. -/
def Silent : WorkerPhase κ → Prop
  | .notifying rest => rest = []
  | _ => True

/-- The results that were passed to the callback, oldest first. -/
def results (s : PoolShared κ) : List ResultMessage := s.passed.map Prod.snd

/-- Either no callback runs, or one does: that of the result passed last. -/
inductive InOrder (callback : ResultMessage → List (κ → κ)) (initial : κ)
    (calls : Multiset (ResultMessage × List (κ → κ))) (s : PoolShared κ) : Prop where
  | between (none_ : calls = 0) (done : s.captured = afterResults callback initial (results s))
  | during (result : ResultMessage) (front : List ResultMessage) (done rest : List (κ → κ))
      (only : calls = {(result, rest)}) (last : results s = front ++ [result])
      (parts : callback result = done ++ rest)
      (far : s.captured = applyEffects done (afterResults callback initial front))

structure Serial (callback : ResultMessage → List (κ → κ)) (initial : κ)
    (pool : ThreadPool κ) : Prop where
  once : MutexHeldOnce pool
  silent : ∀ phase ∈ pool.workers, Silent phase
  inOrder : InOrder callback initial (pool.total calling) pool.shared

variable {callback : ResultMessage → List (κ → κ)} {initial : κ}

theorem InOrder.congr {calls : Multiset (ResultMessage × List (κ → κ))} {s t : PoolShared κ}
    (inOrder : InOrder callback initial calls s) (captured : t.captured = s.captured)
    (passed : t.passed = s.passed) : InOrder callback initial calls t := by
  have same : results t = results s := congrArg (List.map Prod.snd) passed
  cases inOrder with
  | between none_ done => exact .between none_ (by rw [captured, same, done])
  | during result front done rest only last parts far =>
    exact .during result front done rest only (same.trans last) parts (captured.trans far)

/-- The worker in the callback is the only one. -/
theorem InOrder.here {calls : Multiset (ResultMessage × List (κ → κ))} {s : PoolShared κ}
    {result : ResultMessage} {rest : List (κ → κ)} (inOrder : InOrder callback initial calls s)
    (here : (result, rest) ∈ calls) :
    ∃ front done, calls = {(result, rest)} ∧ results s = front ++ [result] ∧
      callback result = done ++ rest ∧
      s.captured = applyEffects done (afterResults callback initial front) := by
  cases inOrder with
  | between none_ done =>
    rw [none_] at here
    cases here
  | during result' front done rest' only last parts far =>
    rw [only, Multiset.mem_singleton] at here
    cases here
    exact ⟨front, done, only, last, parts, far⟩

theorem silent_worker {i : Nat} {s t : PoolShared κ} {phase next : WorkerPhase κ}
    (quiet : ∀ idle, config.idleCallback = some idle → ∀ count, idle count = [])
    (step : WorkerStep config i s phase next t) (silent : Silent phase) : Silent next := by
  cases step with
  | callIdle idle free present => exact quiet idle present _
  | idleEffect effect rest => cases silent
  | _ => trivial

/-- A step of a worker, which was one of those that are in the callback. -/
theorem inOrder_worker {i : Nat} {s t : PoolShared κ} {phase next : WorkerPhase κ}
    {calls calls' : Multiset (ResultMessage × List (κ → κ))}
    (registered : config.resultCallback = some callback) (silent : Silent phase)
    (step : WorkerStep config i s phase next t)
    (moved : calls' + calling phase = calls + calling next)
    (among : calling phase ≤ calls) (alone : s.callbackMutex = none → calls = 0)
    (inOrder : InOrder callback initial calls s) : InOrder callback initial calls' t := by
  cases step with
  | callResult work result other free present =>
    cases registered.symm.trans present
    have nobody := alone free
    obtain ⟨-, done⟩ | ⟨_, _, _, _, only⟩ := inOrder
    · refine .during result (results s) [] (callback result) ?_ (List.map_append ..) rfl done
      simpa [calling, nobody] using moved
    · rw [nobody] at only
      exact absurd only.symm (Multiset.singleton_ne_zero _)
  | resultEffect work result effect rest =>
    obtain ⟨front, done, only, last, parts, far⟩ :=
      inOrder.here (Multiset.singleton_le.mp among)
    refine .during result front (done ++ [effect]) rest ?_ last ?_ ?_
    · rw [only] at moved
      exact add_right_cancel (moved.trans (add_comm ..))
    · rw [parts, List.append_assoc, List.singleton_append]
    · dsimp only
      rw [applyEffects_append, far]
      rfl
  | resultReturns work result =>
    obtain ⟨front, done, only, last, parts, far⟩ :=
      inOrder.here (Multiset.singleton_le.mp among)
    refine .between ?_ ?_
    · rw [only] at moved
      exact add_right_cancel (moved.trans (add_comm ..))
    · rw [List.append_nil] at parts
      show s.captured = afterResults callback initial (results s)
      rw [last, afterResults_snoc, parts, far]
  | idleEffect effect rest => cases silent
  | _ =>
    have same : calls' = calls := by simpa [calling] using moved
    exact same ▸ inOrder.congr rfl rfl

variable {pool after : ThreadPool κ}

theorem serial_start (size : UInt64) (captured : κ) :
    Serial callback captured (.start size captured) := by
  refine ⟨mutexHeldOnce_start size captured, ?_, .between ?_ rfl⟩
  · intro phase member
    rw [List.eq_of_mem_replicate member]
    trivial
  · simp [ThreadPool.total, ThreadPool.start, calling]

/-- While the mutex is free nobody is in the callback. -/
theorem no_calling (once : MutexHeldOnce pool) (free : pool.shared.callbackMutex = none) :
    pool.total calling = 0 := by
  have none_ : pool.total WorkerPhase.holdsMutex = 0 := by
    rw [once, mutexTaken, if_pos free]
  refine List.sum_eq_zero ?_
  intro calls member
  obtain ⟨phase, among, rfl⟩ := List.mem_map.mp member
  have outside : phase.holdsMutex = 0 :=
    List.sum_eq_zero_iff.mp none_ _ (List.mem_map_of_mem among)
  exact Multiset.card_eq_zero.mp (Nat.le_zero.mp (outside ▸ card_calling_le phase))

theorem calling_le_total {left right : List (WorkerPhase κ)} {phase : WorkerPhase κ}
    (before : pool.workers = left ++ phase :: right) :
    calling phase ≤ pool.total calling := by
  rw [ThreadPool.total, before, List.map_append, List.sum_append, List.map_cons, List.sum_cons,
    add_left_comm]
  exact Multiset.le_add_right _ _

theorem serial_step (registered : config.resultCallback = some callback)
    (quiet : ∀ idle, config.idleCallback = some idle → ∀ count, idle count = [])
    (step : PoolStep config pool after) (serial : Serial callback initial pool) :
    Serial callback initial after := by
  refine ⟨mutexHeldOnce_step step serial.once, ?_, ?_⟩
  · cases step with
    | worker left right phase next shared before step =>
      intro other member
      have own : Silent phase := serial.silent phase (by rw [before]; simp)
      have others (kept : other ∈ left ∨ other ∈ right) : Silent other :=
        serial.silent other (by rw [before]; rcases kept with kept | kept <;> simp [kept])
      rcases List.mem_append.mp member with kept | member
      · exact others (.inl kept)
      · rcases List.mem_cons.mp member with rfl | kept
        · exact silent_worker quiet step own
        · exact others (.inr kept)
    | _ => exact serial.silent
  · cases step with
    | worker left right phase next shared before step =>
      have moved := ThreadPool.total_move calling before
        { pool with shared := shared, workers := left ++ next :: right } rfl
      have own : Silent phase := serial.silent phase (by rw [before]; simp)
      exact inOrder_worker registered own step moved (calling_le_total before)
        (no_calling serial.once) serial.inOrder
    | owner next shared drawn step => cases step <;> exact serial.inOrder.congr rfl rfl
    | _ => exact serial.inOrder.congr rfl rfl

/-- Of every interleaving of the workers and the owner. -/
theorem serial_run (registered : config.resultCallback = some callback)
    (quiet : ∀ idle, config.idleCallback = some idle → ∀ count, idle count = [])
    {events : List PoolEvent} (serial : Serial callback initial pool)
    (replay : (poolSystem config).run pool events = some after) : Serial callback initial after :=
  TransitionSystem.run_preserves (Serial callback initial)
    (fun _ _ _ serial taken => serial_step registered quiet (ThreadPool.pool_steps taken) serial)
    serial replay

/-- When all workers have ended no callback runs. -/
theorem Serial.ended (serial : Serial callback initial pool)
    (ended : pool.workers.all WorkerPhase.hasExited = true) :
    pool.shared.captured = afterResults callback initial (results pool.shared) := by
  obtain ⟨-, done⟩ | ⟨result, front, done, rest, only, -⟩ := serial.inOrder
  · exact done
  · have none_ : pool.total calling = 0 := by
      refine List.sum_eq_zero ?_
      intro calls member
      obtain ⟨phase, among, rfl⟩ := List.mem_map.mp member
      have out := List.all_eq_true.mp ended phase among
      cases phase with
      | exited => rfl
      | _ => cases out
    rw [only] at none_
    exact absurd none_ (Multiset.singleton_ne_zero _)

end PnC.Guarantees.CallbackOrder
