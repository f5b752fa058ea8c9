import PnC.Library.Segments
import PnC.Source.Json
import PnC.Source.SocketFrame

/-!
# Frames over a TCP stream

write_bytes and read_exact of socket.cpp loop over calls that move a part of what they are
asked to, at most 2^31 - 1 bytes, so that the count fits in an int. Each frame has its own
calls, for the header and for the payload.
-/
namespace PnC.Source

open PnC.Library

/-- How the calls of a send_frame or a recv_frame split what they move: `header` and
`payload` give one less than what each call moves, if so much is asked of it. -/
structure FrameSplits where
  header : Nat → Fin 2147483647
  payload : Nat → Fin 2147483647

/-- What write_bytes puts on the stream. -/
def writeBytes (choices : Nat → Fin 2147483647) (data : List UInt8) : List UInt8 :=
  sendAll (fun call => (choices call).val) 0 data

/-- What read_exact takes from the stream, none when it ends early. -/
def readExact (choices : Nat → Fin 2147483647) (len : Nat) (stream : List UInt8) :
    Option (List UInt8 × List UInt8) :=
  readAll (fun call => (choices call).val) 0 len stream

def sendFrame (splits : FrameSplits) (json : List UInt8) : List UInt8 :=
  writeBytes splits.header (netLen (UInt32.ofNat json.length)) ++ writeBytes splits.payload json

/-- Frames sent in order over one stream. -/
def sendFrames (splits : Nat → FrameSplits) : (i : Nat) → List (List UInt8) → List UInt8
  | _, [] => []
  | i, json :: rest => sendFrame (splits i) json ++ sendFrames splits (i + 1) rest

def headerClosed : Exception := .runtimeError "Connection closed while reading frame header"

def payloadClosed : Exception := .runtimeError "Connection closed while reading frame payload"

/-- recv_frame: the payload and what is left of the stream. -/
def receiveFrame (splits : FrameSplits) (stream : List UInt8) :
    Except Exception (List UInt8 × List UInt8) :=
  match readExact splits.header 4 stream with
  | some ([b0, b1, b2, b3], rest) =>
    match readExact splits.payload (ntohl b0 b1 b2 b3).toNat rest with
    | none => .error payloadClosed
    | some (payload, rest) => .ok (payload, rest)
  | _ => .error headerClosed

/-- What recv_frame throws on a stream that ends in front of the end of a frame. -/
def closedError (stream : List UInt8) : Exception :=
  if stream.length < 4 then headerClosed else payloadClosed

theorem sendFrame_eq (splits : FrameSplits) (json : List UInt8) :
    sendFrame splits json = frame json := by
  rw [sendFrame, writeBytes, writeBytes, sendAll_eq, sendAll_eq, frame]

theorem sendFrames_eq (splits : Nat → FrameSplits) (i : Nat) (payloads : List (List UInt8)) :
    sendFrames splits i payloads = payloads.flatMap frame := by
  induction payloads generalizing i with
  | nil => rfl
  | cons json rest ih => rw [sendFrames, sendFrame_eq, ih, List.flatMap_cons]

/-- The splits do not matter. -/
theorem receiveFrame_eq (splits : FrameSplits) (stream : List UInt8) :
    receiveFrame splits stream =
      match recvFrame stream with
      | some (payload, rest) => .ok (payload, rest)
      | none => .error (closedError stream) := by
  unfold receiveFrame closedError
  rw [readExact, readAll_eq]
  match stream with
  | [] | [_] | [_, _] | [_, _, _] => rfl
  | b0 :: b1 :: b2 :: b3 :: rest =>
    rw [if_pos (by simp), if_neg (by simp)]
    simp only [List.take_succ_cons, List.take_zero, List.drop_succ_cons, List.drop_zero, recvFrame]
    rw [readExact, readAll_eq]
    by_cases enough : (ntohl b0 b1 b2 b3).toNat ≤ rest.length
    · rw [if_pos enough, if_neg (by omega)]
    · rw [if_neg enough, if_pos (by omega)]

/-- The calls of recv_frame, made until one throws: the payloads and the exception. -/
def receiveFrames (splits : Nat → FrameSplits) (i : Nat) (stream : List UInt8) :
    List (List UInt8) × Exception :=
  match _read : receiveFrame (splits i) stream with
  | .error what => ([], what)
  | .ok (payload, rest) =>
    let (payloads, what) := receiveFrames splits (i + 1) rest
    (payload :: payloads, what)
termination_by stream.length
decreasing_by
  rw [receiveFrame_eq] at _read
  split at _read
  next read =>
    cases _read
    exact recvFrame_shrinks read
  next => cases _read

/-- Repeated calls decode the stream. -/
theorem receiveFrames_eq (splits : Nat → FrameSplits) (i : Nat) (stream : List UInt8) :
    receiveFrames splits i stream =
      ((tcpFrames.decodeAll stream).1, closedError (tcpFrames.decodeAll stream).2) := by
  fun_induction receiveFrames splits i stream with
  | case1 i stream what read =>
    rw [receiveFrame_eq] at read
    split at read
    next => cases read
    next incomplete =>
      cases read
      rw [tcpFrames.decodeAll_none incomplete]
  | case2 i stream payload rest read payloads what later ih =>
    rw [receiveFrame_eq] at read
    split at read
    next whole =>
      cases read
      obtain ⟨rfl, rfl⟩ := Prod.mk.inj (later.symm.trans ih)
      rw [tcpFrames.decodeAll_some whole]
    next => cases read

end PnC.Source
