import PnC.Source.QueueThreads

/-!
# The contract of the bounded queue

Each section of a call adds one item at the back, takes one from the front, or changes
nothing but the shutdown flag. What follows holds for any threads, in any order of their
sections.
-/
namespace PnC.Guarantees.QueueContract

open PnC.Library PnC.Source

variable {α : Type} {s t : QueueThreads α}

/-- A call that throws or returns nothing has found the buffer empty. -/
def FoundEmpty (r : QueueSection α) : Prop :=
  match r.outcome with
  | .threw _ | .nothing => r.found = []
  | .done | .item _ | .answered _ => True

/-- First in, first out, within the capacity, and no empty hand while there are items. -/
structure Contract (capacity : Nat) (s : QueueThreads α) : Prop where
  kept : s.queue.capacity = capacity
  fifo : s.removed ++ s.queue.buffer = s.accepted
  bounded : s.queue.buffer.length ≤ capacity
  returns : ∀ r ∈ s.returns, FoundEmpty r

theorem contract_start (capacity n : Nat) :
    Contract capacity (.start capacity n : QueueThreads α) := by
  refine ⟨rfl, rfl, Nat.zero_le _, ?_⟩
  simp [QueueThreads.start]

theorem sectionStep_capacity {q after : BoundedQueue α} {call : QueueCall α}
    {outcome : QueueReturn α} (step : SectionStep q call outcome after) :
    after.capacity = q.capacity := by
  cases step <;> rfl

/-- What a section takes in goes to the back, what it hands out comes from the front. -/
theorem sectionStep_fifo {q after : BoundedQueue α} {call : QueueCall α}
    {outcome : QueueReturn α} (step : SectionStep q call outcome after) :
    outcome.handsOut ++ after.buffer = q.buffer ++ q.takesIn call outcome := by
  cases step with
  | pushDropped item down => simp [QueueReturn.handsOut, BoundedQueue.takesIn, down]
  | pushed item accepting room => simp [QueueReturn.handsOut, BoundedQueue.takesIn, accepting]
  | popped item rest items => simp [QueueReturn.handsOut, BoundedQueue.takesIn, items]
  | popThrew what empty down => simp [QueueReturn.handsOut, BoundedQueue.takesIn]
  | tryPushed item accepting room => simp [QueueReturn.handsOut, BoundedQueue.takesIn]
  | tryRefused item => simp [QueueReturn.handsOut, BoundedQueue.takesIn]
  | tryPopped item rest items => simp [QueueReturn.handsOut, BoundedQueue.takesIn, items]
  | tryNothing empty => simp [QueueReturn.handsOut, BoundedQueue.takesIn]
  | shutDown => simp [QueueReturn.handsOut, BoundedQueue.takesIn, BoundedQueue.shutdown]

/-- The buffer grows only where there is room. -/
theorem sectionStep_bounded {q after : BoundedQueue α} {call : QueueCall α}
    {outcome : QueueReturn α} (step : SectionStep q call outcome after)
    (bounded : q.buffer.length ≤ q.capacity) : after.buffer.length ≤ q.capacity := by
  cases step with
  | pushed item accepting room | tryPushed item accepting room =>
    simp only [List.length_append, List.length_singleton]
    omega
  | popped item rest items | tryPopped item rest items =>
    rw [items, List.length_cons] at bounded
    exact Nat.le_of_succ_le bounded
  | _ => exact bounded

theorem sectionStep_foundEmpty {q after : BoundedQueue α} {call : QueueCall α}
    {outcome : QueueReturn α} (step : SectionStep q call outcome after) :
    FoundEmpty ⟨call, q.buffer, outcome⟩ := by
  cases step with
  | popThrew what empty down => exact empty
  | tryNothing empty => exact empty
  | _ => trivial

theorem contract_step {capacity : Nat} (step : QueueStep s t) (contract : Contract capacity s) :
    Contract capacity t := by
  cases step with
  | moved threads => exact ⟨contract.kept, contract.fifo, contract.bounded, contract.returns⟩
  | ended threads call outcome after step =>
    obtain ⟨same, fifo, bounded, returns⟩ := contract
    refine ⟨(sectionStep_capacity step).trans same, ?_, ?_, ?_⟩
    · dsimp only
      rw [← fifo, List.append_assoc, List.append_assoc, sectionStep_fifo step]
    · rw [← same] at bounded ⊢
      exact sectionStep_bounded step bounded
    · intro r member
      obtain before | last := List.mem_append.mp member
      · exact returns r before
      · rw [List.mem_singleton.mp last]
        exact sectionStep_foundEmpty step

/-- Behind shutdown the queue stays down and takes nothing in. -/
theorem closed_step {accepted : List α} (step : QueueStep s t)
    (closed : s.queue.shutDown = true ∧ s.accepted = accepted) :
    t.queue.shutDown = true ∧ t.accepted = accepted := by
  obtain ⟨down, same⟩ := closed
  cases step with
  | moved threads => exact ⟨down, same⟩
  | ended threads call outcome after step =>
    have nothing : after.shutDown = true ∧ s.queue.takesIn call outcome = [] := by
      cases step with
      | pushed item accepting room => simp [down] at accepting
      | tryPushed item accepting room => simp [down] at accepting
      | pushDropped item => exact ⟨down, by simp [BoundedQueue.takesIn, down]⟩
      | shutDown => exact ⟨rfl, rfl⟩
      | _ => exact ⟨down, rfl⟩
    dsimp only
    rw [nothing.2, List.append_nil]
    exact ⟨nothing.1, same⟩

/-- For any number of threads and any interleaving of their sections: the items removed and
then the buffer are the items accepted, in order; the buffer stays within the capacity; no
item is accepted after shutdown; and pop throws and try_pop returns nothing only on an empty
buffer. -/
theorem queue_contract (capacity threads : Nat) (events : List (QueueEvent α))
    (final : QueueThreads α)
    (replay : (queueSystem α).run (.start capacity threads) events = some final) :
    final.removed ++ final.queue.buffer = final.accepted ∧
    final.queue.buffer.length ≤ capacity ∧
    (final.queue.shutDown = true → ∀ later last,
      (queueSystem α).run final later = some last → last.accepted = final.accepted) ∧
    ∀ r ∈ final.returns, FoundEmpty r := by
  have contract : Contract capacity final :=
    TransitionSystem.run_preserves (Contract capacity)
      (fun _ _ _ contract taken => contract_step (queue_steps taken) contract)
      (contract_start capacity threads) replay
  refine ⟨contract.fifo, contract.bounded, fun down later last replay => ?_, contract.returns⟩
  have closed := TransitionSystem.run_preserves
    (fun s : QueueThreads α => s.queue.shutDown = true ∧ s.accepted = final.accepted)
    (fun _ _ _ closed taken => closed_step (queue_steps taken) closed) ⟨down, rfl⟩ replay
  exact closed.2

/-- A queue for one item and two threads: the second push waits, is dropped after shutdown,
and the item that is there is still handed out. -/
def drainedAfterShutdown : List (QueueEvent Nat) :=
  [.enter 0 (.push 7), .enterSection 0 false, .enter 0 (.push 8), .enterSection 0 false,
    .enter 1 .shutdown, .enterSection 1 false, .enterSection 0 false, .enter 1 .pop,
    .enterSection 1 false, .enter 1 .pop, .enterSection 1 false]

theorem queue_contract_drained : ∃ final,
    (queueSystem Nat).run (.start 1 2) drainedAfterShutdown = some final ∧
      final.accepted = [7] ∧ final.removed = [7] ∧
      final.removed ++ final.queue.buffer = final.accepted ∧
      final.queue.buffer.length ≤ 1 ∧
      (final.queue.shutDown = true → ∀ later last,
        (queueSystem Nat).run final later = some last → last.accepted = final.accepted) ∧
      ∀ r ∈ final.returns, FoundEmpty r :=
  ⟨_, rfl, rfl, rfl, queue_contract 1 2 drainedAfterShutdown _ rfl⟩

end PnC.Guarantees.QueueContract
