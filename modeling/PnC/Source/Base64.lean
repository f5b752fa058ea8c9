import Mathlib.Data.List.GetD
import PnC.Library.Ascii
import PnC.Source.BenchHandler

/-!
# base64_decode after base64_encode

The decoder stands at the start of a group of four characters whenever the encoder
stood at the start of a group of three bytes.
-/
namespace PnC.Source

open PnC.Library

/-! ## The two tables -/

/-- The byte of a character that base64_encode writes. -/
def charByte (c : Char) : UInt8 := UInt8.ofNat c.toNat

theorem base64Table_spec : ∀ v < 64,
    base64Value (charByte (base64Table.getD v '=')) = v ∧
      charByte (base64Table.getD v '=') ≠ 61 ∧ (base64Table.getD v '=').toNat < 128 := by
  decide +kernel

theorem value_base64Char (o shift : Nat) :
    base64Value (charByte (base64Char o shift)) = o / 2 ^ shift % 64 :=
  (base64Table_spec _ (Nat.mod_lt _ (by decide))).1

theorem base64Char_ne_pad (o shift : Nat) : charByte (base64Char o shift) ≠ 61 :=
  (base64Table_spec _ (Nat.mod_lt _ (by decide))).2.1

theorem base64Char_ascii (o shift : Nat) : (base64Char o shift).toNat < 128 :=
  (base64Table_spec _ (Nat.mod_lt _ (by decide))).2.2

theorem base64Encode_ascii (bytes : List UInt8) : ∀ c ∈ base64Encode bytes, c.toNat < 128 := by
  fun_induction base64Encode bytes with
  | case1 => simp
  | case2 a o => simp [base64Char_ascii]
  | case3 a b o => simp [base64Char_ascii]
  | case4 a b c rest o ih =>
    intro d member
    simp only [List.mem_cons] at member
    rcases member with rfl | rfl | rfl | rfl | member
    · exact base64Char_ascii _ _
    · exact base64Char_ascii _ _
    · exact base64Char_ascii _ _
    · exact base64Char_ascii _ _
    · exact ih d member

/-- The bytes of an encoded text. -/
theorem utf8_base64Encode (bytes : List UInt8) :
    (String.ofList (base64Encode bytes)).toUTF8.data.toList = (base64Encode bytes).map charByte :=
  utf8_of_ascii (base64Encode_ascii bytes)

/-! ## One group -/

namespace Decoding

/-- A sextet `|` into the place below a number is a digit behind it. -/
theorem or_sextet (high : Nat) {low : Nat} (shift : Nat) (sextet : low < 2 ^ 6) :
    high <<< (6 + shift) ||| low <<< shift = (high * 64 + low) <<< shift := by
  rw [Nat.shiftLeft_add, ← Nat.shiftLeft_or_distrib, ← Nat.shiftLeft_add_eq_or_of_lt sextet,
    Nat.shiftLeft_eq high 6]

theorem byte_eq {o shift : Nat} (byte : UInt8) (here : o / 2 ^ shift % 256 = byte.toNat) :
    UInt8.ofNat (o >>> shift &&& 0xFF) = byte := by
  rw [Nat.shiftRight_eq_div_pow, Nat.and_two_pow_sub_one_eq_mod _ 8, here, UInt8.ofNat_toNat]

/-! The sextets of a group of 24 bits, put together again. -/

section Join
variable {o : Nat}

theorem join_high : (o / 2 ^ 18 % 64) <<< 18 ||| (o / 2 ^ 12 % 64) <<< 12 =
    (o / 2 ^ 18 % 64 * 64 + o / 2 ^ 12 % 64) <<< 12 :=
  or_sextet (o / 2 ^ 18 % 64) 12 (Nat.mod_lt _ (by decide))

theorem join_one (size : o < 2 ^ 24) (free : o % 2 ^ 12 = 0) :
    (o / 2 ^ 18 % 64) <<< 18 ||| (o / 2 ^ 12 % 64) <<< 12 = o := by
  rw [join_high, Nat.shiftLeft_eq]
  omega

theorem join_middle :
    (o / 2 ^ 18 % 64) <<< 18 ||| (o / 2 ^ 12 % 64) <<< 12 ||| (o / 2 ^ 6 % 64) <<< 6 =
      ((o / 2 ^ 18 % 64 * 64 + o / 2 ^ 12 % 64) * 64 + o / 2 ^ 6 % 64) <<< 6 := by
  rw [join_high]
  exact or_sextet _ 6 (Nat.mod_lt _ (by decide))

theorem join_two (size : o < 2 ^ 24) (free : o % 2 ^ 6 = 0) :
    (o / 2 ^ 18 % 64) <<< 18 ||| (o / 2 ^ 12 % 64) <<< 12 ||| (o / 2 ^ 6 % 64) <<< 6 = o := by
  rw [join_middle, Nat.shiftLeft_eq]
  omega

theorem join_three (size : o < 2 ^ 24) :
    (o / 2 ^ 18 % 64) <<< 18 ||| (o / 2 ^ 12 % 64) <<< 12 ||| (o / 2 ^ 6 % 64) <<< 6 |||
      o % 64 = o := by
  have sextet : o % 64 < 2 ^ 6 := Nat.mod_lt _ (by decide)
  rw [join_middle, ← Nat.shiftLeft_add_eq_or_of_lt sextet, Nat.shiftLeft_eq]
  omega

end Join

section Group
variable (before tail : List UInt8) (output : List UInt8)

theorem digit_append (k : Nat) :
    digit (before ++ tail) before.length k = base64Value (tail.getD k 0) := by
  rw [digit, List.getD_append_right _ _ _ _ (Nat.le_add_right _ _), Nat.add_sub_cancel_left]

theorem hasDigit_append (k : Nat) :
    hasDigit (before ++ tail) before.length k =
      (decide (k < tail.length) && decide (tail.getD k 0 ≠ 61)) := by
  rw [hasDigit, List.getD_append_right _ _ _ _ (Nat.le_add_right _ _), Nat.add_sub_cancel_left,
    List.length_append]
  simp only [Nat.add_lt_add_iff_left]

variable {a b c : UInt8}

/-- Four characters without padding. -/
theorem body_three (a b c : UInt8) (rest : List UInt8) :
    body (before ++ (base64Encode (a :: b :: c :: rest)).map charByte) ⟨before.length, output⟩ =
      ⟨before.length + 4, output ++ [a, b, c]⟩ := by
  have sizeA := a.toNat_lt
  have sizeB := b.toNat_lt
  have sizeC := c.toNat_lt
  simp only [body, hasDigit_append, digit_append, base64Encode, List.map_cons,
    List.getD_cons_zero, List.getD_cons_succ, value_base64Char]
  rw [if_pos (by simp [base64Char_ne_pad]), Nat.pow_zero, Nat.div_one, join_three (by omega),
    byte_eq a (by omega), byte_eq b (by omega), byte_eq c (by omega)]

/-- One character of padding. -/
theorem body_two (a b : UInt8) :
    body (before ++ (base64Encode [a, b]).map charByte) ⟨before.length, output⟩ =
      ⟨before.length + 4, output ++ [a, b]⟩ := by
  have sizeA := a.toNat_lt
  have sizeB := b.toNat_lt
  simp only [body, hasDigit_append, digit_append, base64Encode, List.map_cons,
    List.getD_cons_zero, List.getD_cons_succ, value_base64Char]
  rw [if_neg (by simp [charByte]), if_pos (by simp [base64Char_ne_pad]),
    join_two (by omega) (by omega), byte_eq a (by omega), byte_eq b (by omega)]

/-- Two characters of padding. -/
theorem body_one (a : UInt8) :
    body (before ++ (base64Encode [a]).map charByte) ⟨before.length, output⟩ =
      ⟨before.length + 4, output ++ [a]⟩ := by
  have sizeA := a.toNat_lt
  simp only [body, hasDigit_append, digit_append, base64Encode, List.map_cons,
    List.getD_cons_zero, List.getD_cons_succ, value_base64Char]
  rw [if_neg (by simp [charByte]), if_neg (by simp [charByte]),
    if_pos (by simp [base64Char_ne_pad]), join_one (by omega) (by omega),
    byte_eq a (by omega)]

end Group

/-! ## The whole loop -/

theorem loop_step {input : List UInt8} {s : Decoding} (more : s.i < input.length) :
    loop input s = loop input (body input s) := by
  rw [loop, if_pos more]

theorem loop_end {input : List UInt8} {s : Decoding} (ended : input.length ≤ s.i) :
    loop input s = s.output := by
  rw [loop, if_neg (Nat.not_lt.mpr ended)]

/-- From the start of any group on, the decoder gives the bytes that are left. -/
theorem loop_encoded (bytes before output : List UInt8) :
    loop (before ++ (base64Encode bytes).map charByte) ⟨before.length, output⟩ =
      output ++ bytes := by
  induction bytes using base64Encode.induct generalizing before output with
  | case1 =>
    rw [loop_end (by simp [base64Encode]), List.append_nil]
  | case2 a =>
    rw [loop_step (by simp [base64Encode]), body_one, loop_end (by simp [base64Encode])]
  | case3 a b =>
    rw [loop_step (by simp [base64Encode]), body_two, loop_end (by simp [base64Encode])]
  | case4 a b c rest ih =>
    -- the four characters of the first group join what is before
    have group : (base64Encode (a :: b :: c :: rest)).map charByte =
        (base64Encode [a, b, c]).map charByte ++ (base64Encode rest).map charByte := rfl
    have later := ih (before ++ (base64Encode [a, b, c]).map charByte) (output ++ [a, b, c])
    rw [List.append_assoc, ← group, List.length_append] at later
    rw [loop_step (by simp [base64Encode]), body_three]
    exact later.trans (List.append_assoc ..)

end Decoding

/-- The bytes of the encoded text decode to the bytes encoded. -/
theorem decode_encode (bytes : List UInt8) :
    base64Decode (String.ofList (base64Encode bytes)).toUTF8.data.toList = bytes := by
  rw [utf8_base64Encode]
  exact Decoding.loop_encoded bytes [] []

end PnC.Source
