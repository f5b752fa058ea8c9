import Mathlib.Data.List.Defs

/-!
# The bytes of ASCII text

A text has at least one byte for each character, and one byte for each if all its
characters are below 128.
-/
namespace PnC.Library

theorem toList_loop (bytes : ByteArray) (i : Nat) (read : List UInt8) :
    ByteArray.toList.loop bytes i read = read.reverse ++ bytes.data.toList.drop i := by
  fun_induction ByteArray.toList.loop bytes i read with
  | case1 i read more ih =>
    have inside : i < bytes.data.toList.length := more
    have here : bytes.get! i = bytes.data.toList[i] := by
      change bytes.data[i]! = _
      rw [getElem!_pos bytes.data i more]
      rfl
    rw [ih, here, List.reverse_cons, List.append_assoc, List.singleton_append,
      List.getElem_cons_drop]
  | case2 i read ended =>
    have past : bytes.data.toList.length ≤ i := Nat.le_of_not_lt ended
    rw [List.drop_eq_nil_of_le past, List.append_nil]

/-- ByteArray.toList lists the bytes in their order. -/
theorem toList_eq_data (bytes : ByteArray) : bytes.toList = bytes.data.toList :=
  toList_loop bytes 0 []

theorem utf8_ofList (text : List Char) :
    (String.ofList text).toUTF8.data.toList = text.flatMap String.utf8EncodeChar := by
  rw [String.toUTF8_eq_toByteArray, String.toByteArray_ofList, List.utf8Encode,
    List.data_toByteArray]

/-- A text has at least one byte for each character. -/
theorem length_le_utf8 (text : List Char) :
    text.length ≤ (String.ofList text).toUTF8.data.toList.length := by
  rw [utf8_ofList]
  induction text with
  | nil => exact Nat.le_refl 0
  | cons c rest ih =>
    have some_byte : 0 < (String.utf8EncodeChar c).length := by
      rw [String.length_utf8EncodeChar]
      exact Char.utf8Size_pos c
    rw [List.flatMap_cons, List.length_append, List.length_cons]
    omega

/-- Every character is one byte of its own number. -/
theorem utf8_of_ascii {text : List Char} (ascii : ∀ c ∈ text, c.toNat < 128) :
    (String.ofList text).toUTF8.data.toList = text.map fun c => UInt8.ofNat c.toNat := by
  rw [utf8_ofList]
  induction text with
  | nil => rfl
  | cons c rest ih =>
    have single : String.utf8EncodeChar c = [UInt8.ofNat c.toNat] :=
      if_pos (Nat.le_of_lt_succ (ascii c List.mem_cons_self))
    rw [List.flatMap_cons, single, List.map_cons, List.singleton_append,
      ih fun d member => ascii d (List.mem_cons_of_mem c member)]

end PnC.Library
