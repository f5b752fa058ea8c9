import Mathlib.Algebra.Group.Nat.Defs
import PnC.Library.PrefixCode

/-!
# TCP frames

send_frame and recv_frame of socket.cpp. A JSON text is its bytes. write_bytes
makes as many send_data calls as the kernel needs; `Transmission` is a send_frame
in progress, `writeNext` one of its send_data calls.
-/
namespace PnC.Source

open PnC.Library

/-- The four bytes of htonl(len) in memory. -/
def netLen (len : UInt32) : List UInt8 :=
  [(len >>> 24).toUInt8, (len >>> 16).toUInt8, (len >>> 8).toUInt8, len.toUInt8]

/-- ntohl of four header bytes -/
def ntohl (b0 b1 b2 b3 : UInt8) : UInt32 :=
  (b0.toUInt32 <<< 24) ||| (b1.toUInt32 <<< 16) ||| (b2.toUInt32 <<< 8) ||| b3.toUInt32

/-- The bytes of one send_frame; the cast to uint32_t drops higher bits of the size. -/
def frame (json : List UInt8) : List UInt8 := netLen (UInt32.ofNat json.length) ++ json

/-- recv_frame on the bytes received so far: the payload and the bytes after it, or
`none` while header or payload are incomplete. -/
def recvFrame : List UInt8 → Option (List UInt8 × List UInt8)
  | b0 :: b1 :: b2 :: b3 :: received =>
    let len := (ntohl b0 b1 b2 b3).toNat
    if received.length < len then none else some (received.take len, received.drop len)
  | _ => none

/-- A send_frame call: the bytes of header and payload accepted so far. -/
structure Transmission where
  json : List UInt8
  written : Nat
  deriving DecidableEq

namespace Transmission

/-- The bytes that the current send_data call is given: the rest of the header or
the rest of the payload. -/
def current (t : Transmission) : List UInt8 :=
  if t.written < 4 then (netLen (UInt32.ofNat t.json.length)).drop t.written
  else t.json.drop (t.written - 4)

/-- send_frame has returned. -/
def finished (t : Transmission) : Bool := t.written = 4 + t.json.length

end Transmission

theorem length_netLen (len : UInt32) : (netLen len).length = 4 := rfl

theorem length_frame (json : List UInt8) : (frame json).length = 4 + json.length := by
  rw [frame, List.length_append, length_netLen]

/-- ntohl undoes htonl: each byte lands on the bits it was taken from. -/
theorem ntohl_netLen (len : UInt32) :
    ntohl (len >>> 24).toUInt8 (len >>> 16).toUInt8 (len >>> 8).toUInt8 len.toUInt8 = len := by
  apply UInt32.toBitVec_inj.mp
  apply BitVec.eq_of_getLsbD_eq
  intro i inside
  simp only [ntohl, UInt32.toBitVec_or, UInt32.toBitVec_shiftLeft, UInt8.toBitVec_toUInt32,
    UInt32.toBitVec_toUInt8, UInt32.toBitVec_shiftRight, BitVec.getLsbD_or]
  rw [show UInt32.toBitVec 24 % 32 = (24 : BitVec 32) from rfl,
    show UInt32.toBitVec 16 % 32 = (16 : BitVec 32) from rfl,
    show UInt32.toBitVec 8 % 32 = (8 : BitVec 32) from rfl]
  simp only [BitVec.shiftLeft_eq', BitVec.ushiftRight_eq', BitVec.getLsbD_shiftLeft,
    BitVec.getLsbD_setWidth, BitVec.getLsbD_ushiftRight]
  rcases Nat.lt_or_ge i 8 with lowest | i8
  · simp [lowest, inside]
    omega
  rcases Nat.lt_or_ge i 16 with second | i16
  · simp [inside, show ¬ i < 8 by omega, show i - 8 < 8 by omega, show 8 + (i - 8) = i by omega,
      show i < 16 by omega, show i < 24 by omega, show i - 8 < 32 by omega]
  rcases Nat.lt_or_ge i 24 with third | i24
  · simp [inside, show ¬ i < 8 by omega, show ¬ i < 16 by omega, show ¬ i - 8 < 8 by omega,
      show i - 16 < 8 by omega, show 16 + (i - 16) = i by omega, show i < 24 by omega,
      show i - 16 < 32 by omega]
  · simp [inside, show ¬ i < 8 by omega, show ¬ i < 16 by omega, show ¬ i < 24 by omega,
      show ¬ i - 8 < 8 by omega, show ¬ i - 16 < 8 by omega, show i - 24 < 8 by omega,
      show 24 + (i - 24) = i by omega, show i - 24 < 32 by omega]

/-- A length below 2^32 goes through uint32_t whole. -/
theorem toNat_length {json : List UInt8} (short : json.length < 2 ^ 32) :
    (UInt32.ofNat json.length).toNat = json.length := by
  rw [UInt32.toNat_ofNat']
  exact Nat.mod_eq_of_lt short

theorem recvFrame_frame (json received : List UInt8) (short : json.length < 2 ^ 32) :
    recvFrame (frame json ++ received) = some (json, received) := by
  simp only [frame, netLen, List.cons_append, List.nil_append, recvFrame, ntohl_netLen,
    toNat_length short]
  rw [if_neg (by simp), List.take_left, List.drop_left]

/-- A frame that has not arrived whole is not received. -/
theorem recvFrame_take (json : List UInt8) (n : Nat) (short : json.length < 2 ^ 32)
    (incomplete : n < (frame json).length) : recvFrame ((frame json).take n) = none := by
  rw [length_frame] at incomplete
  match n with
  | 0 => rfl
  | 1 => rfl
  | 2 => rfl
  | 3 => rfl
  | n + 4 =>
    simp only [frame, netLen, List.cons_append, List.nil_append, List.take_succ_cons, recvFrame,
      ntohl_netLen, toNat_length short]
    rw [if_pos]
    rw [List.length_take]
    omega

/-- What is received is accounted for, and no payload reaches 2^32 bytes. -/
theorem recvFrame_length {received rest json : List UInt8}
    (read : recvFrame received = some (json, rest)) :
    received.length = 4 + json.length + rest.length ∧ json.length < 2 ^ 32 := by
  unfold recvFrame at read
  split at read
  next b0 b1 b2 b3 received =>
    have bound := (ntohl b0 b1 b2 b3).toNat_lt
    simp only at read
    split at read
    next => cases read
    next =>
      cases read
      simp only [List.length_take, List.length_drop, List.length_cons]
      omega
  next => cases read

theorem recvFrame_shrinks {received rest json : List UInt8}
    (read : recvFrame received = some (json, rest)) : rest.length < received.length := by
  have lengths := (recvFrame_length read).1
  omega

/-- The frames of the control connection as a self-delimiting code. -/
def tcpFrames : PrefixCode (List UInt8) UInt8 where
  encode := frame
  decode := recvFrame
  Valid json := json.length < 2 ^ 32
  decode_encode := recvFrame_frame
  decode_take := recvFrame_take
  shrinks := recvFrame_shrinks

end PnC.Source
