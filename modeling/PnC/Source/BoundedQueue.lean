import PnC.Source.Json

/-!
# The bounded queue

BoundedQueue of queue.h. Each operation is the mutex-held section that ends the call;
`none` stands for a call that goes on waiting on its condition variable. The notifications
only wake such a call up, to test its condition again.
-/
namespace PnC.Source

structure BoundedQueue (α : Type) where
  capacity : Nat
  buffer : List α
  shutDown : Bool

namespace BoundedQueue

variable {α : Type}

def new (capacity : Nat) : BoundedQueue α := ⟨capacity, [], false⟩

/-- After shutdown the item is dropped without a word. -/
def push (q : BoundedQueue α) (item : α) : Option (BoundedQueue α) :=
  if q.buffer.length < q.capacity ∨ q.shutDown then
    if q.shutDown then some q else some { q with buffer := q.buffer ++ [item] }
  else none

def pop (q : BoundedQueue α) : Option (Except Exception (α × BoundedQueue α)) :=
  match q.buffer with
  | [] => if q.shutDown then some (.error (.runtimeError "Queue shut down")) else none
  | item :: rest => some (.ok (item, { q with buffer := rest }))

/-- The timed wait ends without an item only while the buffer is empty, whether the time
is over or the queue is shut down. -/
def tryPop (q : BoundedQueue α) : Option (α × BoundedQueue α) :=
  match q.buffer with
  | [] => none
  | item :: rest => some (item, { q with buffer := rest })

/-- The timed wait of try_push; `timedOut` says that its time is over. -/
def tryPush (q : BoundedQueue α) (timedOut : Bool) (item : α) : Option (Bool × BoundedQueue α) :=
  if q.buffer.length < q.capacity ∨ q.shutDown then
    if q.shutDown then some (false, q) else some (true, { q with buffer := q.buffer ++ [item] })
  else if timedOut then some (false, q) else none

def empty (q : BoundedQueue α) : Bool := q.buffer.isEmpty

def shutdown (q : BoundedQueue α) : BoundedQueue α := { q with shutDown := true }

/-- A push that ends dropped its item after shutdown, or put it in where there was room. -/
theorem push_some {q after : BoundedQueue α} {item : α} (pushed : q.push item = some after) :
    q.shutDown = true ∧ after = q ∨
      q.shutDown = false ∧ q.buffer.length < q.capacity ∧
        after = { q with buffer := q.buffer ++ [item] } := by
  unfold push at pushed
  split at pushed
  next room =>
    split at pushed <;> cases pushed
    next down => exact .inl ⟨down, rfl⟩
    next accepting =>
      exact .inr ⟨Bool.eq_false_iff.mpr accepting, room.resolve_right accepting, rfl⟩
  next => cases pushed

theorem tryPush_some {q after : BoundedQueue α} {timedOut accepted : Bool} {item : α}
    (pushed : q.tryPush timedOut item = some (accepted, after)) :
    accepted = false ∧ after = q ∨
      accepted = true ∧ q.shutDown = false ∧ q.buffer.length < q.capacity ∧
        after = { q with buffer := q.buffer ++ [item] } := by
  unfold tryPush at pushed
  split at pushed
  next room =>
    split at pushed <;> cases pushed
    next => exact .inl ⟨rfl, rfl⟩
    next accepting =>
      exact .inr ⟨rfl, Bool.eq_false_iff.mpr accepting, room.resolve_right accepting, rfl⟩
  next =>
    split at pushed <;> cases pushed
    exact .inl ⟨rfl, rfl⟩

theorem push_open {q after : BoundedQueue α} {item : α} (accepting : q.shutDown = false)
    (pushed : q.push item = some after) :
    after = { q with buffer := q.buffer ++ [item] } := by
  obtain ⟨down, -⟩ | ⟨-, -, stored⟩ := push_some pushed
  · rw [accepting] at down
    cases down
  · exact stored

theorem push_buffer {q pushed : BoundedQueue α} {item : α}
    (taken : q.push item = some pushed) :
    pushed.buffer = q.buffer ∨ pushed.buffer = q.buffer ++ [item] := by
  obtain ⟨-, rfl⟩ | ⟨-, -, rfl⟩ := push_some taken
  · exact .inl rfl
  · exact .inr rfl

theorem pop_ok {q after : BoundedQueue α} {item : α} (popped : q.pop = some (.ok (item, after))) :
    q.buffer = item :: after.buffer ∧ after = { q with buffer := after.buffer } := by
  unfold pop at popped
  split at popped
  next => split at popped <;> cases popped
  next first rest items =>
    cases popped
    exact ⟨items, rfl⟩

theorem pop_error {q : BoundedQueue α} {what : Exception} (threw : q.pop = some (.error what)) :
    q.buffer = [] ∧ q.shutDown = true := by
  unfold pop at threw
  split at threw
  next empty =>
    split at threw
    next down => exact ⟨empty, down⟩
    next => cases threw
  next => cases threw

theorem tryPop_some {q after : BoundedQueue α} {item : α} (popped : q.tryPop = some (item, after)) :
    q.buffer = item :: after.buffer ∧ after = { q with buffer := after.buffer } := by
  unfold tryPop at popped
  split at popped
  next => cases popped
  next first rest items =>
    cases popped
    exact ⟨items, rfl⟩

theorem tryPop_none {q : BoundedQueue α} (popped : q.tryPop = none) : q.buffer = [] := by
  unfold tryPop at popped
  split at popped
  next items => exact items
  next => cases popped

end BoundedQueue

end PnC.Source
