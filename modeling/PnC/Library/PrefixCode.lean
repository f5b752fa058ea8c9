import Mathlib.Data.List.Basic

/-!
# Self-delimiting codes

A code whose decoder finds the end of each word by itself: decoding reads one word
off the front of a stream, and nothing off an incomplete word. Decoding repeatedly
inverts concatenation and stops in front of an incomplete last word.
-/
namespace PnC.Library

universe u v

structure PrefixCode (α : Type u) (β : Type v) where
  encode : α → List β
  decode : List β → Option (α × List β)
  /-- the values the encoder is meant for -/
  Valid : α → Prop
  decode_encode : ∀ a rest, Valid a → decode (encode a ++ rest) = some (a, rest)
  decode_take : ∀ a n, Valid a → n < (encode a).length → decode ((encode a).take n) = none
  shrinks : ∀ {stream a rest}, decode stream = some (a, rest) → rest.length < stream.length

namespace PrefixCode

variable {α : Type u} {β : Type v} (code : PrefixCode α β)

/-- Decode words off the front until one is incomplete: the words and the rest. -/
def decodeAll (stream : List β) : List α × List β :=
  match _read : code.decode stream with
  | none => ([], stream)
  | some (a, rest) => (a :: (decodeAll rest).1, (decodeAll rest).2)
termination_by stream.length
decreasing_by all_goals exact code.shrinks _read

theorem decodeAll_none {stream : List β} (incomplete : code.decode stream = none) :
    code.decodeAll stream = ([], stream) := by
  rw [decodeAll]
  split
  next => rfl
  next read =>
    rw [incomplete] at read
    cases read

theorem decodeAll_some {stream rest : List β} {a : α} (read : code.decode stream = some (a, rest)) :
    code.decodeAll stream = (a :: (code.decodeAll rest).1, (code.decodeAll rest).2) := by
  rw [decodeAll]
  split
  next incomplete =>
    rw [read] at incomplete
    cases incomplete
  next b left found =>
    rw [read] at found
    cases found
    rfl

/-- Whole words come out in order, whatever follows them. -/
theorem decodeAll_flatMap (words : List α) (tail : List β) (valid : ∀ a ∈ words, code.Valid a) :
    code.decodeAll (words.flatMap code.encode ++ tail) =
      (words ++ (code.decodeAll tail).1, (code.decodeAll tail).2) := by
  induction words with
  | nil => rfl
  | cons a words ih =>
    have later := ih fun b member => valid b (List.mem_cons_of_mem a member)
    rw [List.flatMap_cons, List.append_assoc,
      code.decodeAll_some (code.decode_encode a _ (valid a List.mem_cons_self)), later]
    rfl

/-- An incomplete last word is left over. -/
theorem decodeAll_take (words : List α) (valid : ∀ a ∈ words, code.Valid a) {last : α}
    (lastValid : code.Valid last) {n : Nat} (incomplete : n < (code.encode last).length) :
    code.decodeAll (words.flatMap code.encode ++ (code.encode last).take n) =
      (words, (code.encode last).take n) := by
  rw [code.decodeAll_flatMap words _ valid,
    code.decodeAll_none (code.decode_take last n lastValid incomplete), List.append_nil]

/-- A stream of words that is cut anywhere is decoded to the words in front of the cut. -/
theorem decodeAll_cut (words : List α) (valid : ∀ a ∈ words, code.Valid a)
    (nothing : code.decode [] = none) (n : Nat) :
    ∃ k ≤ words.length,
      (code.decodeAll ((words.flatMap code.encode).take n)).1 = words.take k ∧
        ((words.take k).flatMap code.encode).length ≤ n ∧
        (k < words.length → n < ((words.take (k + 1)).flatMap code.encode).length) := by
  induction words generalizing n with
  | nil =>
    refine ⟨0, Nat.le_refl 0, ?_, Nat.zero_le n, fun less => by cases less⟩
    rw [List.flatMap_nil, List.take_nil, code.decodeAll_none nothing, List.take_nil]
  | cons a words ih =>
    have here := valid a List.mem_cons_self
    by_cases whole : (code.encode a).length ≤ n
    · obtain ⟨k, within, decoded, fits, next⟩ :=
        ih (fun b member => valid b (List.mem_cons_of_mem a member)) (n - (code.encode a).length)
      refine ⟨k + 1, Nat.succ_le_succ within, ?_, ?_, ?_⟩
      · rw [List.flatMap_cons, List.take_append, List.take_of_length_le whole,
          code.decodeAll_some (code.decode_encode a _ here), decoded, List.take_succ_cons]
      · rw [List.take_succ_cons, List.flatMap_cons, List.length_append]
        omega
      · intro less
        have beyond := next (Nat.lt_of_succ_lt_succ less)
        rw [List.take_succ_cons, List.flatMap_cons, List.length_append]
        omega
    · refine ⟨0, Nat.zero_le _, ?_, Nat.zero_le n, fun _ => ?_⟩
      · rw [List.flatMap_cons, List.take_append_of_le_length (by omega),
          code.decodeAll_none (code.decode_take a n here (by omega))]
        rfl
      · rw [List.take_succ_cons, List.flatMap_cons, List.length_append]
        omega

end PrefixCode

end PnC.Library
