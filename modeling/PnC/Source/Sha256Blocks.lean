import PnC.Library.Fips180
import PnC.Source.Sha256

/-!
# The blocks that sha256_bytes hands to transform

Whatever flush_block does with a block, sha256_bytes does it to the consecutive
blocks of one padded byte string (`hashBytes_processes`): the data, the marker,
`zerosWritten` zero bytes and the length.
-/
namespace PnC.Source.Sha256Context

open PnC.Library.Fips180

/-! ## Writing into the block -/

theorem toList_memcpy (bytes : List UInt8) (block : Vector UInt8 64) (offset : Nat)
    (fits : offset + bytes.length ≤ 64) :
    (memcpy block offset bytes).toList =
      block.toList.take offset ++ bytes ++ block.toList.drop (offset + bytes.length) := by
  induction bytes generalizing block offset with
  | nil => simp [memcpy]
  | cons byte bytes ih =>
    have inside : offset < block.toList.length := by
      rw [Vector.length_toList]
      simp only [List.length_cons] at fits
      omega
    rw [memcpy, ih _ _ (by simp only [List.length_cons] at fits; omega)]
    simp only [Vector.set!_eq_setIfInBounds, Vector.toList_setIfInBounds, List.length_cons]
    rw [List.drop_set_of_lt (by omega), List.take_add_one, List.take_set_of_le (Nat.le_refl _),
      List.getElem?_set_self inside]
    simp [Nat.add_assoc, Nat.add_comm 1]

theorem toList_memset (block : Vector UInt8 64) (offset : Nat) (value : UInt8) (count : Nat)
    (fits : offset + count ≤ 64) :
    (memset block offset value count).toList =
      block.toList.take offset ++ List.replicate count value ++
        block.toList.drop (offset + count) := by
  rw [memset, toList_memcpy _ _ _ (by simpa using fits), List.length_replicate]

/-- Each iteration stores the low byte and shifts it out. -/
theorem getElem_storeLength (count : Nat) (block : Vector UInt8 64) (bitlen : UInt64)
    (bound : count ≤ 8) (j : Nat) (inside : j < 64) :
    (storeLength block bitlen count)[j] =
      if 56 ≤ j ∧ j < 56 + count then
        UInt8.ofNat (bitlen.toNat / 256 ^ (55 + count - j))
      else block[j] := by
  induction count generalizing block bitlen with
  | zero => rw [if_neg (by omega), storeLength]
  | succ count ih =>
    rw [storeLength, ih _ _ (by omega)]
    by_cases last : j = 56 + count
    · subst last
      rw [if_neg (by omega), if_pos (by omega), Vector.set!_eq_setIfInBounds,
        Vector.getElem_setIfInBounds inside, if_pos rfl,
        show 55 + (count + 1) - (56 + count) = 0 by omega, Nat.pow_zero, Nat.div_one]
      apply UInt8.toNat_inj.mp
      simp [Nat.and_two_pow_sub_one_eq_mod _ 8]
    · have shifted : (bitlen >>> 8).toNat = bitlen.toNat / 256 := by
        simp [UInt64.toNat_shiftRight, Nat.shiftRight_eq_div_pow]
      rw [Vector.set!_eq_setIfInBounds, Vector.getElem_setIfInBounds inside, if_neg (Ne.symm last),
        shifted, Nat.div_div_eq_div_mul]
      by_cases earlier : 56 ≤ j ∧ j < 56 + count
      · rw [if_pos earlier, if_pos (by omega), ← Nat.pow_succ',
          show (55 + count - j).succ = 55 + (count + 1) - j by omega]
      · rw [if_neg earlier, if_neg (by omega)]

theorem toList_storeLength (block : Vector UInt8 64) (bitlen : UInt64) :
    (storeLength block bitlen 8).toList =
      block.toList.take 56 ++ lengthBytes bitlen.toNat := by
  apply List.ext_getElem
  · simp [lengthBytes]
  · intro j inside _
    rw [Vector.length_toList] at inside
    rw [Vector.getElem_toList, getElem_storeLength 8 block bitlen (Nat.le_refl 8) j inside]
    by_cases early : j < 56
    · rw [if_neg (by omega), List.getElem_append_left (by simpa using early)]
      simp
    · rw [if_pos (by omega), List.getElem_append_right (by simpa using Nat.not_lt.mp early)]
      simp only [lengthBytes, List.getElem_map, List.getElem_range, List.length_take,
        Vector.length_toList]
      rw [show 55 + 8 - j = 7 - (j - min 56 64) by omega]

/-! ## The buffering loop -/

section Processing
variable {σ τ : Type} {transform : σ → Vector UInt8 64 → σ} {compress : τ → List UInt8 → τ}
  {value : σ → τ} {hash : τ}

/-- `c` has processed the whole blocks of `seen` and holds the rest. -/
def Absorbed (compress : τ → List UInt8 → τ) (value : σ → τ) (hash : τ) (c : Sha256Context σ)
    (seen : List UInt8) : Prop :=
  ∃ whole rest, seen = whole ++ rest ∧ 64 ∣ whole.length ∧ rest.length = c.buffered ∧
    c.block.toList.take c.buffered = rest ∧ value c.state = process compress hash whole

theorem new_absorbed (compress : τ → List UInt8 → τ) (value : σ → τ) (state : σ) :
    Absorbed compress value (value state) (new state) [] :=
  ⟨[], [], rfl, Nat.dvd_zero _, rfl, rfl, (process_short compress _ _ (by decide)).symm⟩

variable (agrees : ∀ s block, value (transform s block) = compress (value s) block.toList)
include agrees

theorem bufferChunk_absorbed {c : Sha256Context σ} {seen : List UInt8} (chunk : List UInt8)
    (before : Absorbed compress value hash c seen) (fits : c.buffered + chunk.length ≤ 64) :
    Absorbed compress value hash (c.bufferChunk transform chunk) (seen ++ chunk) := by
  obtain ⟨whole, rest, rfl, blocks, size, held, state⟩ := before
  have copied := toList_memcpy chunk c.block c.buffered fits
  rw [held] at copied
  unfold bufferChunk
  by_cases room : c.buffered + chunk.length < 64
  · rw [dif_pos room]
    refine ⟨whole, rest ++ chunk, List.append_assoc .., blocks, by simp [size], ?_, state⟩
    rw [copied]
    exact List.take_left' (by simp [size])
  · rw [dif_neg room]
    have full : (rest ++ chunk).length = 64 := by
      rw [List.length_append]
      omega
    rw [List.drop_of_length_le (by rw [Vector.length_toList]; omega), List.append_nil] at copied
    refine ⟨whole ++ (rest ++ chunk), [], by simp, ?_, rfl, rfl, ?_⟩
    · rw [List.length_append, full]
      omega
    · rw [agrees, state, copied, process_append compress hash _ _ blocks, process_block _ _ full]

theorem bufferBytes_absorbed (bytes : List UInt8) (c : Sha256Context σ) (seen : List UInt8)
    (before : Absorbed compress value hash c seen) :
    Absorbed compress value hash (c.bufferBytes transform bytes) (seen ++ bytes) := by
  fun_induction bufferBytes transform c bytes generalizing seen with
  | case1 c => simpa using before
  | case2 c bytes _ chunk ih =>
    have room := c.room
    have next := ih _ (bufferChunk_absorbed agrees (bytes.take chunk) before
      (by rw [List.length_take]; omega))
    rwa [List.append_assoc, List.take_append_drop] at next

/-! ## Padding -/

/-- The zero bytes written between the marker and the length. -/
def zerosWritten (length : Nat) : Nat :=
  if 56 ≤ length % 64 + 1 then (64 - (length % 64 + 1)) + 56 else 56 - (length % 64 + 1)

theorem finish_absorbed {c : Sha256Context σ} {seen : List UInt8}
    (before : Absorbed compress value hash c seen) (bitlen : UInt64) :
    value (c.finish transform bitlen) =
      process compress hash (seen ++ [0x80] ++ List.replicate (zerosWritten seen.length) 0 ++
        lengthBytes bitlen.toNat) := by
  obtain ⟨whole, rest, rfl, blocks, size, held, state⟩ := before
  have room := c.room
  have marked : (c.block.set! c.buffered 0x80).toList.take (c.buffered + 1) = rest ++ [0x80] := by
    have copied := toList_memcpy [0x80] c.block c.buffered room
    rw [held] at copied
    rw [show c.block.set! c.buffered 0x80 = memcpy c.block c.buffered [0x80] from rfl, copied]
    exact List.take_left' (by simp [size])
  have remainder : (whole ++ rest).length % 64 = c.buffered := by
    rw [List.length_append]
    omega
  simp only [List.append_assoc, process_append compress hash whole _ blocks, ← state]
  unfold finish zerosWritten
  rw [remainder]
  by_cases late : 56 ≤ c.buffered + 1
  · simp only [if_pos late, agrees, toList_storeLength]
    rw [toList_memset _ _ _ _ (by omega), toList_memset _ _ _ _ (by omega), marked,
      List.drop_of_length_le (by rw [Vector.length_toList]; omega), List.append_nil,
      List.take_left' (by simp), ← List.replicate_append_replicate]
    have first :
        (rest ++ [0x80] ++ List.replicate (64 - (c.buffered + 1)) (0 : UInt8)).length = 64 := by
      simp [size]
      omega
    have second : (List.replicate 56 (0 : UInt8) ++ lengthBytes bitlen.toNat).length = 64 := by
      simp [length_lengthBytes]
    have split := process_cons compress (value c.state)
      (List.replicate 56 (0 : UInt8) ++ lengthBytes bitlen.toNat) first
    rw [process_block _ _ second] at split
    simp only [List.append_assoc, List.nil_append, List.take_zero] at split ⊢
    exact split.symm
  · simp only [if_neg late, agrees, toList_storeLength]
    rw [toList_memset _ _ _ _ (by omega), marked, List.take_left' (by simp [size]; omega)]
    have only : (rest ++ [0x80] ++ List.replicate (56 - (c.buffered + 1)) (0 : UInt8) ++
        lengthBytes bitlen.toNat).length = 64 := by
      simp [size, length_lengthBytes]
      omega
    rw [← process_block compress (value c.state) only]
    simp only [List.append_assoc]

variable (compress value) in
/-- The whole of sha256_bytes before the printing. -/
theorem hashBytes_processes (state : σ) (data : List UInt8) (short : data.length < 2 ^ 61) :
    value (hashBytes transform state data) =
      process compress (value state) (data ++ [0x80] ++
        List.replicate (zerosWritten data.length) 0 ++ lengthBytes (8 * data.length)) := by
  have absorbed := bufferBytes_absorbed agrees data (new state) []
    (new_absorbed compress value state)
  have bits : (UInt64.ofNat data.length * 8).toNat = 8 * data.length := by
    simp [UInt64.toNat_mul, UInt64.toNat_ofNat']
    omega
  rw [hashBytes, finish_absorbed agrees absorbed, bits, List.nil_append]

end Processing

end PnC.Source.Sha256Context
