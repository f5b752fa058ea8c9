import PnC.Source.FrameStream

/-!
# Frames survive any segmentation

A frame is its length and its payload, the code `tcpFrames`. The loops of write_bytes and
read_exact move whole headers and payloads however their calls split them.
-/
namespace PnC.Guarantees.FramedStream

open PnC.Library PnC.Source

/-- The exceptions for a stream that ends. -/
theorem closedError_cases (stream : List UInt8) :
    closedError stream = headerClosed ∨ closedError stream = payloadClosed := by
  unfold closedError
  split
  · exact .inl rfl
  · exact .inr rfl

/-- recv_frame returns the payloads that were sent, in order. When the stream is cut after
`n` bytes it returns those whose frames are complete and then throws, for the header or the
payload of the next frame. -/
theorem frames_lossless (payloads : List (List UInt8))
    (short : ∀ json ∈ payloads, json.length < 2 ^ 32) (sends receives : Nat → FrameSplits) :
    (receiveFrames receives 0 (sendFrames sends 0 payloads)).1 = payloads ∧
    ∀ n, ∃ k ≤ payloads.length, ∃ what,
      receiveFrames receives 0 ((sendFrames sends 0 payloads).take n) = (payloads.take k, what) ∧
        (what = headerClosed ∨ what = payloadClosed) ∧
        (sendFrames sends 0 (payloads.take k)).length ≤ n ∧
        (k < payloads.length → n < (sendFrames sends 0 (payloads.take (k + 1))).length) := by
  have nothing : tcpFrames.decode [] = none := rfl
  constructor
  · have decoded := tcpFrames.decodeAll_flatMap payloads [] short
    rw [List.append_nil, tcpFrames.decodeAll_none nothing, List.append_nil] at decoded
    rw [receiveFrames_eq, sendFrames_eq]
    exact congrArg Prod.fst decoded
  · intro n
    obtain ⟨k, within, decoded, fits, next⟩ := tcpFrames.decodeAll_cut payloads short nothing n
    let left := (tcpFrames.decodeAll ((payloads.flatMap frame).take n)).2
    refine ⟨k, within, closedError left, ?_, closedError_cases left, ?_, ?_⟩
    · rw [receiveFrames_eq, sendFrames_eq]
      exact congrArg (fun whole => (whole, closedError left)) decoded
    · rw [sendFrames_eq]
      exact fits
    · rw [sendFrames_eq]
      exact next

/-- One byte in each call. -/
def byBytes : FrameSplits := ⟨fun _ => 0, fun _ => 0⟩

/-- As much as is asked in each call. -/
def inOne : FrameSplits := ⟨fun _ => 2147483646, fun _ => 2147483646⟩

/-- An empty payload and one of two bytes. -/
theorem frames_lossless_two :
    (receiveFrames (fun _ => byBytes) 0 (sendFrames (fun _ => inOne) 0 [[], [1, 2]])).1 =
      [[], [1, 2]] :=
  (frames_lossless [[], [1, 2]] (by decide) (fun _ => inOne) fun _ => byBytes).1

end PnC.Guarantees.FramedStream
