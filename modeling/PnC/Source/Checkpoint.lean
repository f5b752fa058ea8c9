import PnC.Source.WorkTracker

/-!
# Checkpoints

CheckpointState and CheckpointManager of checkpoint.cpp, and the snapshot
to_checkpoint that the work tracker makes. A checkpoint file is kept as what its
parser sees: `save` is the list of its effects on the two files, so that any
prefix of it is a save that was cut off.
-/
namespace PnC.Source

structure ConsumerState where
  consumerId : String
  pendingUnits : Int

structure CheckpointState where
  producerId : String
  sourceFile : String
  permutation : String
  permutationSeed : Int
  totalJobs : Int
  lastCompletedSeq : Int
  lastCompletedWorkUnitId : String
  completedCount : Int
  pendingCount : Int
  failedCount : Int
  checkpointTimestamp : String
  consumersConnected : List ConsumerState
  pluginState : Option Json

def ConsumerState.toJson (c : ConsumerState) : Json :=
  .object [("consumer_id", .string c.consumerId), ("pending_units", .numberInteger c.pendingUnits)]

def ConsumerState.fromJson (j : Json) : Except Exception ConsumerState := do
  let consumerId ← j.value "consumer_id" "" Json.getString
  let pendingUnits ← j.value "pending_units" 0 Json.getInt
  return { consumerId, pendingUnits }

/-- What from_json makes of to_json: the number goes through int. -/
def ConsumerState.reduced (c : ConsumerState) : ConsumerState :=
  { c with pendingUnits := toInt32 c.pendingUnits }

namespace CheckpointState

def toJson (s : CheckpointState) : Json :=
  .object <|
    [("producer_id", .string s.producerId), ("source_file", .string s.sourceFile),
      ("permutation", .string s.permutation),
      ("permutation_seed", .numberInteger s.permutationSeed),
      ("total_jobs", .numberInteger s.totalJobs),
      ("last_completed_seq", .numberInteger s.lastCompletedSeq),
      ("last_completed_work_unit_id", .string s.lastCompletedWorkUnitId),
      ("completed_count", .numberInteger s.completedCount),
      ("pending_count", .numberInteger s.pendingCount),
      ("failed_count", .numberInteger s.failedCount),
      ("checkpoint_timestamp", .string s.checkpointTimestamp),
      ("consumers_connected", .array (s.consumersConnected.map ConsumerState.toJson))] ++
    (s.pluginState.map fun state => ("plugin_state", state)).toList

/-- The loop over j["consumers_connected"], entered when the key is there. -/
def readConsumers (j : Json) : Except Exception (List ConsumerState) :=
  match j.find "consumers_connected" with
  | some consumers => consumers.elements.mapM ConsumerState.fromJson
  | none => .ok []

/-- The defaults of the numeric reads are int literals, so each goes through int. -/
def fromJson (j : Json) : Except Exception CheckpointState := do
  let producerId ← j.value "producer_id" "" Json.getString
  let sourceFile ← j.value "source_file" "" Json.getString
  let permutation ← j.value "permutation" "" Json.getString
  let permutationSeed ← j.value "permutation_seed" 0 Json.getInt
  let totalJobs ← j.value "total_jobs" 0 Json.getInt
  let lastCompletedSeq ← j.value "last_completed_seq" (-1) Json.getInt
  let lastCompletedWorkUnitId ← j.value "last_completed_work_unit_id" "" Json.getString
  let completedCount ← j.value "completed_count" 0 Json.getInt
  let pendingCount ← j.value "pending_count" 0 Json.getInt
  let failedCount ← j.value "failed_count" 0 Json.getInt
  let checkpointTimestamp ← j.value "checkpoint_timestamp" "" Json.getString
  let consumersConnected ← readConsumers j
  let pluginState ← j.optional "plugin_state" Json.getJson
  return { producerId, sourceFile, permutation, permutationSeed, totalJobs, lastCompletedSeq,
           lastCompletedWorkUnitId, completedCount, pendingCount, failedCount,
           checkpointTimestamp, consumersConnected, pluginState }

/-- The state with every number reduced to int, which is what from_json makes of
to_json. -/
def reduced (s : CheckpointState) : CheckpointState :=
  { s with
    permutationSeed := toInt32 s.permutationSeed
    totalJobs := toInt32 s.totalJobs
    lastCompletedSeq := toInt32 s.lastCompletedSeq
    completedCount := toInt32 s.completedCount
    pendingCount := toInt32 s.pendingCount
    failedCount := toInt32 s.failedCount
    consumersConnected := s.consumersConnected.map ConsumerState.reduced }

/-- Every number of the state is in the range of int. -/
structure Fits (s : CheckpointState) : Prop where
  permutationSeed : FitsInt32 s.permutationSeed
  totalJobs : FitsInt32 s.totalJobs
  lastCompletedSeq : FitsInt32 s.lastCompletedSeq
  completedCount : FitsInt32 s.completedCount
  pendingCount : FitsInt32 s.pendingCount
  failedCount : FitsInt32 s.failedCount
  pendingUnits : ∀ c ∈ s.consumersConnected, FitsInt32 c.pendingUnits

theorem readConsumers_toJson (s : CheckpointState) :
    readConsumers s.toJson = .ok (s.consumersConnected.map ConsumerState.reduced) := by
  have each : ∀ consumers : List ConsumerState,
      (consumers.map ConsumerState.toJson).mapM ConsumerState.fromJson =
        .ok (consumers.map ConsumerState.reduced) := by
    intro consumers
    induction consumers with
    | nil => rfl
    | cons c rest ih =>
      rw [List.map_cons, List.mapM_cons, ih]
      rfl
  exact each s.consumersConnected

theorem fromJson_toJson (s : CheckpointState) : fromJson s.toJson = .ok s.reduced := by
  unfold fromJson
  rw [readConsumers_toJson]
  cases state : s.pluginState <;>
    simp [toJson, reduced, state, Json.value, Json.optional, Json.contains, Json.require, Json.find,
      Json.getString, Json.getInt, Json.getJson, List.lookup_cons, bind, Except.bind, pure,
      Except.pure, Except.map]

theorem reduced_of_fits {s : CheckpointState} (fits : s.Fits) : s.reduced = s := by
  have consumers : s.consumersConnected.map ConsumerState.reduced = s.consumersConnected := by
    refine List.map_congr_left (g := id) (fun c member => ?_) |>.trans (List.map_id _)
    rw [ConsumerState.reduced, toInt32_of_fits (fits.pendingUnits c member), id]
  rw [reduced, consumers, toInt32_of_fits fits.permutationSeed, toInt32_of_fits fits.totalJobs,
    toInt32_of_fits fits.lastCompletedSeq, toInt32_of_fits fits.completedCount,
    toInt32_of_fits fits.pendingCount, toInt32_of_fits fits.failedCount]

end CheckpointState

/-- to_checkpoint: the fields the tracker knows; the caller fills in the others. -/
def WorkTracker.toCheckpoint (t : WorkTracker) (totalJobs : Int) : CheckpointState where
  producerId := ""
  sourceFile := ""
  permutation := ""
  permutationSeed := 0
  totalJobs := totalJobs
  lastCompletedSeq := t.lastCompletedSeq
  lastCompletedWorkUnitId := ""
  completedCount := t.completedCount
  pendingCount := t.pendingCount
  failedCount := t.failedCount
  checkpointTimestamp := ""
  consumersConnected := []
  pluginState := none

/-! ## The checkpoint files -/

/-- A file between its truncation and the end of its write is empty or holds a
part of a document, which no parser accepts. -/
inductive FileContents where
  | empty
  | partly
  | document (j : Json)

/-- state.json and state.backup.json; `none` is a file that does not exist. -/
structure CheckpointDir where
  primary : Option FileContents
  backup : Option FileContents

namespace CheckpointDir

/-- A new checkpoint directory. -/
def fresh : CheckpointDir := ⟨none, none⟩

/-- The effects of copying the open primary over the backup: truncation, a part of
the write, and the whole of it. -/
def backupSteps (contents : FileContents) : List (CheckpointDir → CheckpointDir) :=
  [fun d => { d with backup := some .empty },
    fun d => { d with backup := some .partly },
    fun d => { d with backup := some contents }]

def primarySteps (j : Json) : List (CheckpointDir → CheckpointDir) :=
  [fun d => { d with primary := some .empty },
    fun d => { d with primary := some .partly },
    fun d => { d with primary := some (.document j) }]

/-- The effects of CheckpointManager::save in order. -/
def saveSteps (d : CheckpointDir) (state : CheckpointState) :
    List (CheckpointDir → CheckpointDir) :=
  (match d.primary with
    | some contents => backupSteps contents
    | none => []) ++ primarySteps state.toJson

def perform (d : CheckpointDir) (steps : List (CheckpointDir → CheckpointDir)) : CheckpointDir :=
  steps.foldl (fun d step => step d) d

/-- CheckpointManager::save -/
def save (d : CheckpointDir) (state : CheckpointState) : CheckpointDir :=
  d.perform (d.saveSteps state)

/-- A save cut off after `count` of its effects. -/
def cutSave (d : CheckpointDir) (state : CheckpointState) (count : Nat) : CheckpointDir :=
  d.perform ((d.saveSteps state).take count)

/-- One of the two attempts of load: parse and from_json, any exception caught. -/
def tryFile : Option FileContents → Option CheckpointState
  | some (.document j) => (CheckpointState.fromJson j).toOption
  | _ => none

/-- CheckpointManager::load -/
def load (d : CheckpointDir) : Option CheckpointState :=
  match tryFile d.primary with
  | some state => some state
  | none => tryFile d.backup

theorem primary_save (d : CheckpointDir) (s : CheckpointState) :
    (d.save s).primary = some (.document s.toJson) := by
  unfold save perform saveSteps
  cases d.primary <;> rfl

/-- What is read back after a save. -/
theorem load_save (d : CheckpointDir) (s : CheckpointState) : (d.save s).load = some s.reduced := by
  unfold load
  rw [primary_save, tryFile, CheckpointState.fromJson_toJson]
  rfl

/-- What a cut leaves of an existing primary and of the backup: the effects in turn. -/
theorem cutSave_cases (d : CheckpointDir) (s : CheckpointState) {contents : FileContents}
    (present : d.primary = some contents) (count : Nat) (inside : count < 6) :
    count = 0 ∧ d.cutSave s count = d ∨
    count ≠ 0 ∧ (d.cutSave s count).primary = some contents ∧
      (tryFile (d.cutSave s count).backup = none ∨
        (d.cutSave s count).backup = some contents) ∨
    count ≠ 0 ∧ (∃ left, (d.cutSave s count).primary = some left ∧ tryFile (some left) = none) ∧
      (d.cutSave s count).backup = some contents := by
  unfold cutSave perform saveSteps backupSteps primarySteps
  rw [present]
  match count, inside with
  | 0, _ => exact Or.inl ⟨rfl, rfl⟩
  | 1, _ => exact Or.inr (Or.inl ⟨by decide, present, Or.inl rfl⟩)
  | 2, _ => exact Or.inr (Or.inl ⟨by decide, present, Or.inl rfl⟩)
  | 3, _ => exact Or.inr (Or.inl ⟨by decide, present, Or.inr rfl⟩)
  | 4, _ => exact Or.inr (Or.inr ⟨by decide, ⟨_, rfl, rfl⟩, rfl⟩)
  | 5, _ => exact Or.inr (Or.inr ⟨by decide, ⟨_, rfl, rfl⟩, rfl⟩)

end CheckpointDir

end PnC.Source
