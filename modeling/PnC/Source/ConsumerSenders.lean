import Mathlib.Logic.Function.Basic
import PnC.Library.Transition
import PnC.Source.SocketFrame

/-!
# The threads that write to client_socket_

send_frame is called by the pool workers from the result and idle callbacks, which
worker_loop makes under callback_mutex_, and without any lock by the heartbeat
thread, by the main thread and by the receiver thread. Each send_data call
appends a non-empty prefix of what it is given to the stream.
-/
namespace PnC.Source

open PnC.Library

inductive Sender where
  | worker (index : Nat)
  | heartbeat
  | mainThread
  | receiver
  deriving DecidableEq

structure ControlStream where
  stream : List UInt8
  sending : Sender → Option Transmission
  callbackMutex : Option Nat
  /-- the payloads whose send_frame has returned, in that order -/
  delivered : List (List UInt8)

inductive SendStep where
  | lockCallback (worker : Nat)
  | unlockCallback (worker : Nat)
  | sendFrame (sender : Sender) (json : List UInt8)
  | sendData (sender : Sender) (accepted : Nat)

namespace ControlStream

def connected : ControlStream := ⟨[], fun _ => none, none, []⟩

/-- A worker sends from inside a callback only. -/
def mayStart (c : ControlStream) : Sender → Bool
  | .worker index => c.callbackMutex = some index
  | _ => true

/-- The state after a send_data call of `sender` that took `accepted` bytes. -/
def accept (c : ControlStream) (sender : Sender) (t : Transmission) (accepted : Nat) :
    ControlStream :=
  let t' : Transmission := { t with written := t.written + accepted }
  { c with
    stream := c.stream ++ t.current.take accepted
    sending := Function.update c.sending sender (if t'.finished then none else some t')
    delivered := if t'.finished then c.delivered ++ [t.json] else c.delivered }

end ControlStream

def senderSystem : TransitionSystem ControlStream SendStep where
  step c
    | .lockCallback worker =>
      if c.callbackMutex = none then some { c with callbackMutex := some worker } else none
    | .unlockCallback worker =>
      if c.callbackMutex = some worker ∧ c.sending (.worker worker) = none then
        some { c with callbackMutex := none }
      else none
    | .sendFrame sender json =>
      if c.sending sender = none ∧ c.mayStart sender then
        some { c with sending := Function.update c.sending sender (some ⟨json, 0⟩) }
      else none
    | .sendData sender accepted =>
      match c.sending sender with
      | none => none
      | some t =>
        if 1 ≤ accepted ∧ accepted ≤ t.current.length then some (c.accept sender t accepted)
        else none

theorem ControlStream.sending_accept_self (c : ControlStream) (sender : Sender) (t : Transmission)
    (accepted : Nat) :
    (c.accept sender t accepted).sending sender =
      if Transmission.finished { t with written := t.written + accepted } then none
      else some { t with written := t.written + accepted } :=
  Function.update_self ..

theorem ControlStream.sending_accept_other (c : ControlStream) {sender other : Sender}
    (t : Transmission) (accepted : Nat) (apart : other ≠ sender) :
    (c.accept sender t accepted).sending other = c.sending other :=
  Function.update_of_ne apart ..

/-- The accepted bytes continue the frame. -/
theorem Transmission.take_current (t : Transmission) {accepted : Nat}
    (bound : accepted ≤ t.current.length) :
    (frame t.json).take t.written ++ t.current.take accepted =
      (frame t.json).take (t.written + accepted) := by
  have split : (frame t.json).take (t.written + accepted) =
      (frame t.json).take t.written ++ ((frame t.json).drop t.written).take accepted :=
    List.take_add
  rw [split]
  unfold Transmission.current at bound ⊢
  split at bound
  next header =>
    rw [if_pos header, frame, List.drop_append_of_le_length (by rw [length_netLen]; omega),
      List.take_append_of_le_length bound]
  next payload =>
    rw [if_neg payload, frame, List.drop_append, length_netLen,
      List.drop_of_length_le (l := netLen _) (by rw [length_netLen]; omega), List.nil_append]

/-- A call is never given bytes past the end of the frame. -/
theorem Transmission.length_current {t : Transmission} (open_ : t.written < 4 + t.json.length) :
    1 ≤ t.current.length ∧ t.written + t.current.length ≤ 4 + t.json.length := by
  unfold Transmission.current
  split
  next => rw [List.length_drop, length_netLen]; omega
  next => rw [List.length_drop]; omega

end PnC.Source
