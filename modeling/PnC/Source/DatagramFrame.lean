import PnC.Source.SocketFrame

/-!
# UDP frames

send_frame_udp and recv_frame_udp of socket.cpp. send_frame_udp gives send_to the
bytes of a TCP frame as one datagram and does not look at what send_to returns.
-/
namespace PnC.Source

/-- recv_frame_udp on a datagram: recvfrom fills a buffer of 65535 bytes and drops what
does not fit; a frame that is not whole gives the empty string. -/
def recvFrameUdp (datagram : List UInt8) : List UInt8 :=
  match datagram.take 65535 with
  | b0 :: b1 :: b2 :: b3 :: received =>
    let len := (ntohl b0 b1 b2 b3).toNat
    if received.length < len then [] else received.take len
  | _ => []

/-- It reads the first frame of the buffer as recv_frame does. -/
theorem recvFrameUdp_eq (datagram : List UInt8) :
    recvFrameUdp datagram = ((recvFrame (datagram.take 65535)).map Prod.fst).getD [] := by
  unfold recvFrameUdp
  match datagram.take 65535 with
  | [] | [_] | [_, _] | [_, _, _] => rfl
  | b0 :: b1 :: b2 :: b3 :: received =>
    unfold recvFrame
    dsimp only
    split <;> rfl

/-- A frame that fits the buffer is read back. -/
theorem recvFrameUdp_frame {json : List UInt8} (fits : (frame json).length ≤ 65535) :
    recvFrameUdp (frame json) = json := by
  have short : json.length < 2 ^ 32 := by
    rw [length_frame] at fits
    omega
  have read := recvFrame_frame json [] short
  rw [List.append_nil] at read
  rw [recvFrameUdp_eq, List.take_of_length_le fits, read]
  rfl

end PnC.Source
