import Mathlib.Logic.Function.Iterate
import PnC.Source.Base64

/-!
# Base64 between the two programs

The consumer's base64_decode undoes the producer's base64_encode, and its while loop
ends on every input.
-/
namespace PnC.Guarantees.Base64RoundTrip

open PnC.Source PnC.Source.Decoding

/-- `n` iterations of the while loop, after which its test fails. -/
structure EndsAfter (input : List UInt8) (s : Decoding) (n : Nat) : Prop where
  running : ∀ m < n, ((body input)^[m] s).i < input.length
  ended : input.length ≤ ((body input)^[n] s).i
  result : loop input s = ((body input)^[n] s).output

theorem endsAfter_zero {input : List UInt8} {s : Decoding} (ended : input.length ≤ s.i) :
    EndsAfter input s 0 :=
  ⟨fun _ before => absurd before (Nat.not_lt_zero _), ended, loop_end ended⟩

theorem endsAfter_succ {input : List UInt8} {s : Decoding} {n : Nat}
    (more : s.i < input.length) (rest : EndsAfter input (body input s) n) :
    EndsAfter input s (n + 1) := by
  constructor
  case running =>
    intro m before
    cases m with
    | zero => exact more
    | succ m => exact rest.running m (Nat.lt_of_succ_lt_succ before)
  case ended => exact rest.ended
  case result => exact (loop_step more).trans rest.result

/-- Every iteration moves i, so there are no more of them than bytes ahead. -/
theorem loop_ends (input : List UInt8) (ahead : Nat) (s : Decoding)
    (bound : input.length - s.i ≤ ahead) : ∃ n ≤ ahead, EndsAfter input s n := by
  induction ahead generalizing s with
  | zero => exact ⟨0, Nat.le_refl 0, endsAfter_zero (by omega)⟩
  | succ ahead ih =>
    by_cases more : s.i < input.length
    · have further := lt_body input s
      obtain ⟨n, few, rest⟩ := ih (body input s) (by omega)
      exact ⟨n + 1, Nat.succ_le_succ few, endsAfter_succ more rest⟩
    · exact ⟨0, Nat.zero_le _, endsAfter_zero (Nat.not_lt.mp more)⟩

/-- Every byte list comes back, and on every input, padded or not, the loop ends after
at most one iteration a byte. -/
theorem base64_round_trips :
    (∀ bytes : List UInt8,
      base64Decode (String.ofList (base64Encode bytes)).toUTF8.data.toList = bytes) ∧
    ∀ input : List UInt8, ∃ n ≤ input.length, EndsAfter input ⟨0, []⟩ n :=
  ⟨decode_encode, fun input => loop_ends input input.length ⟨0, []⟩ (Nat.sub_le ..)⟩

end PnC.Guarantees.Base64RoundTrip
