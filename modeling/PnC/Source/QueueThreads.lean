import PnC.Library.Transition
import PnC.Source.BoundedQueue

/-!
# Threads that share a queue

Any number of threads call the operations of a BoundedQueue. A thread inside a call takes the
mutex and tests the condition of its wait, at its entry and whenever it is woken up, by a
notification or without one; the call ends in such a section, or goes on waiting. The lists
`accepted`, `removed` and `returns` are kept for statements; no step looks at them.
-/
namespace PnC.Source

open PnC.Library

inductive QueueCall (α : Type) where
  | push (item : α)
  | pop
  | tryPush (item : α)
  | tryPop
  | shutdown

/-- How a call ends. -/
inductive QueueReturn (α : Type) where
  | done
  | item (item : α)
  | threw (what : Exception)
  | answered (accepted : Bool)
  /-- std::nullopt -/
  | nothing

/-- The section of a call that held the mutex when the call ended, and the buffer it found. -/
structure QueueSection (α : Type) where
  call : QueueCall α
  found : List α
  outcome : QueueReturn α

structure QueueThreads (α : Type) where
  queue : BoundedQueue α
  /-- the call that each thread is in, if it is in one -/
  threads : List (Option (QueueCall α))
  /-- the items that were put into the buffer, oldest first -/
  accepted : List α
  /-- the items that were handed out, oldest first -/
  removed : List α
  /-- the calls that have ended, oldest first -/
  returns : List (QueueSection α)

inductive QueueEvent (α : Type) where
  | enter (i : Nat) (call : QueueCall α)
  | enterSection (i : Nat) (timedOut : Bool)

namespace BoundedQueue

variable {α : Type}

/-- One section of a call; `none` when the call goes on waiting. -/
def attempt (q : BoundedQueue α) (timedOut : Bool) :
    QueueCall α → Option (QueueReturn α × BoundedQueue α)
  | .push item => (q.push item).map fun after => (.done, after)
  | .pop =>
    match q.pop with
    | none => none
    | some (.error what) => some (.threw what, q)
    | some (.ok (item, after)) => some (.item item, after)
  | .tryPush item =>
    (q.tryPush timedOut item).map fun (accepted, after) => (.answered accepted, after)
  | .tryPop =>
    match q.tryPop with
    | some (item, after) => some (.item item, after)
    | none => if q.shutDown ∨ timedOut then some (.nothing, q) else none
  | .shutdown => some (.done, q.shutdown)

/-- The items that a section puts into the buffer. -/
def takesIn (q : BoundedQueue α) : QueueCall α → QueueReturn α → List α
  | .push item, _ => if q.shutDown then [] else [item]
  | .tryPush item, .answered true => [item]
  | _, _ => []

end BoundedQueue

/-- The items that a call hands out. -/
def QueueReturn.handsOut {α : Type} : QueueReturn α → List α
  | .item first => [first]
  | _ => []

/-- A new queue and `n` threads outside of its calls. -/
def QueueThreads.start {α : Type} (capacity n : Nat) : QueueThreads α where
  queue := .new capacity
  threads := List.replicate n none
  accepted := []
  removed := []
  returns := []

def queueSystem (α : Type) : TransitionSystem (QueueThreads α) (QueueEvent α) where
  step s
    | .enter i call =>
      match s.threads[i]? with
      | some none => some { s with threads := s.threads.set i (some call) }
      | _ => none
    | .enterSection i timedOut =>
      match s.threads[i]? with
      | some (some call) =>
        match s.queue.attempt timedOut call with
        | none => some s
        | some (outcome, after) =>
          some
            { queue := after
              threads := s.threads.set i none
              accepted := s.accepted ++ s.queue.takesIn call outcome
              removed := s.removed ++ outcome.handsOut
              returns := s.returns ++ [⟨call, s.queue.buffer, outcome⟩] }
      | _ => none

/-- What a section that ends its call does. -/
inductive SectionStep {α : Type} (q : BoundedQueue α) :
    QueueCall α → QueueReturn α → BoundedQueue α → Prop where
  | pushDropped (item : α) : q.shutDown = true → SectionStep q (.push item) .done q
  | pushed (item : α) : q.shutDown = false → q.buffer.length < q.capacity →
      SectionStep q (.push item) .done { q with buffer := q.buffer ++ [item] }
  | popped (item : α) (rest : List α) : q.buffer = item :: rest →
      SectionStep q .pop (.item item) { q with buffer := rest }
  | popThrew (what : Exception) : q.buffer = [] → q.shutDown = true →
      SectionStep q .pop (.threw what) q
  | tryPushed (item : α) : q.shutDown = false → q.buffer.length < q.capacity →
      SectionStep q (.tryPush item) (.answered true) { q with buffer := q.buffer ++ [item] }
  | tryRefused (item : α) : SectionStep q (.tryPush item) (.answered false) q
  | tryPopped (item : α) (rest : List α) : q.buffer = item :: rest →
      SectionStep q .tryPop (.item item) { q with buffer := rest }
  | tryNothing : q.buffer = [] → SectionStep q .tryPop .nothing q
  | shutDown : SectionStep q .shutdown .done q.shutdown

/-- What a step of the threads does: a thread enters a call, waits on, or ends its call. -/
inductive QueueStep {α : Type} (s : QueueThreads α) : QueueThreads α → Prop where
  | moved (threads : List (Option (QueueCall α))) : QueueStep s { s with threads := threads }
  | ended (threads : List (Option (QueueCall α))) (call : QueueCall α) (outcome : QueueReturn α)
      (after : BoundedQueue α) : SectionStep s.queue call outcome after →
      QueueStep s
        { queue := after
          threads := threads
          accepted := s.accepted ++ s.queue.takesIn call outcome
          removed := s.removed ++ outcome.handsOut
          returns := s.returns ++ [⟨call, s.queue.buffer, outcome⟩] }

namespace BoundedQueue

variable {α : Type} {q after : BoundedQueue α} {timedOut : Bool}

theorem section_steps {call : QueueCall α} {outcome : QueueReturn α}
    (ended : q.attempt timedOut call = some (outcome, after)) :
    SectionStep q call outcome after := by
  cases call with
  | push item =>
    obtain ⟨pushed, pushing, same⟩ := Option.map_eq_some_iff.mp ended
    cases same
    obtain ⟨down, rfl⟩ | ⟨accepting, room, rfl⟩ := push_some pushing
    · exact .pushDropped item down
    · exact .pushed item accepting room
  | pop =>
    simp only [attempt] at ended
    split at ended
    next => cases ended
    next what threw =>
      cases ended
      obtain ⟨empty, down⟩ := pop_error threw
      exact .popThrew what empty down
    next item rest popped =>
      cases ended
      obtain ⟨items, same⟩ := pop_ok popped
      rw [same]
      exact .popped item _ items
  | tryPush item =>
    obtain ⟨⟨accepted, pushed⟩, pushing, same⟩ := Option.map_eq_some_iff.mp ended
    cases same
    obtain ⟨rfl, rfl⟩ | ⟨rfl, accepting, room, rfl⟩ := tryPush_some pushing
    · exact .tryRefused item
    · exact .tryPushed item accepting room
  | tryPop =>
    simp only [attempt] at ended
    split at ended
    next item rest popped =>
      cases ended
      obtain ⟨items, same⟩ := tryPop_some popped
      rw [same]
      exact .tryPopped item _ items
    next nothing =>
      split at ended
      next =>
        cases ended
        exact .tryNothing (tryPop_none nothing)
      next => cases ended
  | shutdown =>
    cases ended
    exact .shutDown

end BoundedQueue

theorem queue_steps {α : Type} {s t : QueueThreads α} {event : QueueEvent α}
    (taken : (queueSystem α).step s event = some t) : QueueStep s t := by
  cases event with
  | enter i call =>
    simp only [queueSystem] at taken
    split at taken
    next =>
      cases taken
      exact .moved _
    next => cases taken
  | enterSection i timedOut =>
    simp only [queueSystem] at taken
    split at taken
    next call inside =>
      split at taken
      next =>
        cases taken
        exact .moved s.threads
      next outcome after ended =>
        cases taken
        exact .ended _ call outcome after (BoundedQueue.section_steps ended)
    next => cases taken

end PnC.Source
