import PnC.Library.Transition
import PnC.Source.Checkpoint

/-!
# Crash-safe checkpointing

Histories of saves from an empty directory, each completed or cut off after any
of its effects on the files. `save` copies whatever the primary holds over the
backup, without parsing it: a save that finds an unparsable primary destroys the
only good copy with its first effect. `load` keeps its promise along a history
exactly when no save is cut off in that state (`crash_safe_iff`).
-/
namespace PnC.Guarantees.CheckpointCrash

open PnC.Library PnC.Source CheckpointDir

/-- The directory with what a reader of the history knows: the states of the
completed saves and, while the last save was interrupted, its state. -/
structure History where
  dir : CheckpointDir
  completed : List CheckpointState
  interrupted : Option CheckpointState

def start : History := ⟨.fresh, [], none⟩

inductive SaveEvent where
  | save (state : CheckpointState)
  | cut (state : CheckpointState) (count : Nat)

/-- A save is interrupted before it has had all its effects. -/
def checkpointSystem : TransitionSystem History SaveEvent where
  step h
    | .save state => some ⟨h.dir.save state, state :: h.completed, none⟩
    | .cut state count =>
      if count < (h.dir.saveSteps state).length then
        some ⟨h.dir.cutSave state count, h.completed, some state⟩
      else none

/-- Once a save has completed, load returns a completed save or the interrupted one. -/
def Recovers (h : History) : Prop :=
  h.completed ≠ [] →
    ∃ state, h.dir.load = some state ∧ (state ∈ h.completed ∨ h.interrupted = some state)

def RecoversStep (_ : History) (_ : SaveEvent) (after : History) : Prop := Recovers after

/-- A completed save writes numbers that read back as a completed save's, and a
save that finds the primary unparsable is not cut off once it has begun. -/
def SparesBackup (h : History) (event : SaveEvent) (_ : History) : Prop :=
  match event with
  | .save state => state.reduced ∈ state :: h.completed
  | .cut _ count => h.completed ≠ [] → tryFile h.dir.primary = none → count = 0

theorem spares_of_fits {h after : History} {state : CheckpointState} (fits : state.Fits) :
    SparesBackup h (.save state) after := by
  simp only [SparesBackup, CheckpointState.reduced_of_fits fits, List.mem_cons_self]

/-- One of the two files holds a completed save, the primary if it can be parsed. -/
structure Recoverable (h : History) : Prop where
  written : h.completed ≠ [] → ∃ contents, h.dir.primary = some contents
  held : h.completed ≠ [] → (∃ state ∈ h.completed, tryFile h.dir.primary = some state) ∨
    (tryFile h.dir.primary = none ∧ ∃ state ∈ h.completed, tryFile h.dir.backup = some state)

theorem recoverable_start : Recoverable start :=
  ⟨fun some_saved => absurd rfl some_saved, fun some_saved => absurd rfl some_saved⟩

theorem Recoverable.recovers {h : History} (recoverable : Recoverable h) : Recovers h := by
  intro some_saved
  rcases recoverable.held some_saved with ⟨state, member, here⟩ | ⟨broken, state, member, kept⟩
  · exact ⟨state, by rw [load, here], Or.inl member⟩
  · exact ⟨state, by rw [load, broken, kept], Or.inl member⟩

/-- The effects of a save over an existing primary. -/
theorem length_saveSteps {d : CheckpointDir} {contents : FileContents}
    (present : d.primary = some contents) (state : CheckpointState) :
    (d.saveSteps state).length = 6 := by
  rw [saveSteps, present]
  rfl

theorem tryFile_save (d : CheckpointDir) (state : CheckpointState) :
    tryFile (d.save state).primary = some state.reduced := by
  rw [primary_save, tryFile, CheckpointState.fromJson_toJson]
  rfl

theorem recoverable_step {h after : History} {event : SaveEvent} (recoverable : Recoverable h)
    (spares : SparesBackup h event after)
    (taken : checkpointSystem.step h event = some after) : Recoverable after := by
  cases event with
  | save state =>
    cases taken
    exact ⟨fun _ => ⟨_, primary_save _ _⟩,
      fun _ => Or.inl ⟨state.reduced, spares, tryFile_save h.dir state⟩⟩
  | cut state count =>
    simp only [checkpointSystem] at taken
    split at taken
    next inside =>
      cases taken
      by_cases some_saved : h.completed = []
      · exact ⟨fun other => absurd some_saved other, fun other => absurd some_saved other⟩
      obtain ⟨contents, present⟩ := recoverable.written some_saved
      rw [length_saveSteps present] at inside
      have unbroken : count ≠ 0 → ∃ s ∈ h.completed, tryFile (some contents) = some s := by
        intro begun
        rcases recoverable.held some_saved with readable | ⟨broken, -⟩
        · rwa [present] at readable
        · exact absurd (spares some_saved broken) begun
      rcases cutSave_cases h.dir state present count inside with ⟨-, same⟩ |
        ⟨begun, primary, -⟩ | ⟨begun, ⟨left, primary, broken⟩, backup⟩
      · simp only [same]
        exact ⟨recoverable.written, recoverable.held⟩
      · exact ⟨fun _ => ⟨_, primary⟩, fun _ => Or.inl (by rw [primary]; exact unbroken begun)⟩
      · refine ⟨fun _ => ⟨_, primary⟩, fun _ => Or.inr ?_⟩
        rw [primary, backup]
        exact ⟨broken, unbroken begun⟩
    next => cases taken

/-- A save that finds the primary unparsable and is cut off after its first effect
leaves nothing to load. -/
theorem load_lost {d : CheckpointDir} {contents : FileContents} (present : d.primary = some contents)
    (broken : tryFile d.primary = none) (state : CheckpointState) {count : Nat}
    (inside : count < 6) (begun : count ≠ 0) : (d.cutSave state count).load = none := by
  rw [present] at broken
  rcases cutSave_cases d state present count inside with ⟨none_done, -⟩ |
    ⟨-, primary, lost | copied⟩ | ⟨-, ⟨left, primary, unread⟩, backup⟩
  · exact absurd none_done begun
  · rw [load, primary, broken, lost]
  · rw [load, primary, broken, copied, broken]
  · rw [load, primary, unread, backup, broken]

theorem spares_of_recovers {h after : History} {event : SaveEvent} (recoverable : Recoverable h)
    (recovers : Recovers after) (taken : checkpointSystem.step h event = some after) :
    SparesBackup h event after := by
  cases event with
  | save state =>
    cases taken
    obtain ⟨found, loaded, member | other⟩ := recovers (List.cons_ne_nil _ _)
    · rw [load, tryFile_save] at loaded
      cases loaded
      exact member
    · cases other
  | cut state count =>
    simp only [checkpointSystem] at taken
    split at taken
    next inside =>
      cases taken
      intro some_saved broken
      obtain ⟨contents, present⟩ := recoverable.written some_saved
      rw [length_saveSteps present] at inside
      refine Classical.byContradiction fun begun => ?_
      obtain ⟨found, loaded, -⟩ := recovers some_saved
      rw [load_lost present broken state inside begun] at loaded
      cases loaded
    next => cases taken

/-- After every event of a history load keeps its promise exactly when no event of
it damages the only good copy. -/
theorem crash_safe_iff (events : List SaveEvent) :
    checkpointSystem.Along RecoversStep start events ↔
      checkpointSystem.Along SparesBackup start events := by
  refine TransitionSystem.along_iff Recoverable ?_ ?_ recoverable_start
  · intro h event after recoverable taken
    constructor
    · intro recovers
      exact spares_of_recovers recoverable recovers taken
    · intro spares
      exact (recoverable_step recoverable spares taken).recovers
  · intro h event after recoverable spares taken
    exact recoverable_step recoverable spares taken

def sample : CheckpointState :=
  (WorkTracker.new.toCheckpoint 0)

/-- A completed save, a save cut off inside its last write, and a save cut off right
after it has truncated the backup. -/
theorem second_interruption_loses :
    ¬ ∀ events, checkpointSystem.Along RecoversStep start events := by
  intro claimed
  have along := claimed [.save sample, .cut sample 5, .cut sample 1]
  have last := (((along _ rfl).2 _ rfl).2 _ rfl).1
  obtain ⟨found, loaded, -⟩ := last (List.cons_ne_nil _ _)
  cases loaded

end PnC.Guarantees.CheckpointCrash
