import Mathlib.Tactic.IntervalCases
import PnC.Source.Sha256Blocks

/-!
# SHA-256 conformance

transform is the compression of the standard and the printed words are its
hexadecimal digest, for every input. The padding is the standard's, and with it
the digest, except for lengths of 55 modulo 64: the marker then ends at byte 56,
`buffered >= 56` holds, and a block of zero bytes is hashed that the standard
does not have.
-/
namespace PnC.Guarantees.Sha256Conformance

open PnC.Library PnC.Library.Fips180 PnC.Source PnC.Source.Sha256Impl

/-! ## Functions on words -/

theorem rotr_toBitVec (x n : UInt32) (positive : 0 < n.toNat) (bounded : n.toNat < 32) :
    (rotr x n).toBitVec = x.toBitVec.rotateRight n.toNat := by
  simp [rotr, UInt32.toBitVec_or, UInt32.toBitVec_shiftRight, UInt32.toBitVec_shiftLeft,
    BitVec.rotateRight_def, Nat.mod_eq_of_lt bounded]
  congr 2
  omega

theorem ch_toBitVec (x y z : UInt32) :
    (ch x y z).toBitVec = Fips180.ch x.toBitVec y.toBitVec z.toBitVec := rfl

theorem maj_toBitVec (x y z : UInt32) :
    (maj x y z).toBitVec = Fips180.maj x.toBitVec y.toBitVec z.toBitVec := rfl

theorem sigma0_toBitVec (x : UInt32) : (sigma0 x).toBitVec = bigSigma0 x.toBitVec := by
  simp only [sigma0, bigSigma0, UInt32.toBitVec_xor]
  rw [rotr_toBitVec x 2 (by decide) (by decide), rotr_toBitVec x 13 (by decide) (by decide),
    rotr_toBitVec x 22 (by decide) (by decide)]
  rfl

theorem sigma1_toBitVec (x : UInt32) : (sigma1 x).toBitVec = bigSigma1 x.toBitVec := by
  simp only [sigma1, bigSigma1, UInt32.toBitVec_xor]
  rw [rotr_toBitVec x 6 (by decide) (by decide), rotr_toBitVec x 11 (by decide) (by decide),
    rotr_toBitVec x 25 (by decide) (by decide)]
  rfl

theorem gamma0_toBitVec (x : UInt32) : (gamma0 x).toBitVec = smallSigma0 x.toBitVec := by
  simp only [gamma0, smallSigma0, UInt32.toBitVec_xor]
  rw [rotr_toBitVec x 7 (by decide) (by decide), rotr_toBitVec x 18 (by decide) (by decide)]
  rfl

theorem gamma1_toBitVec (x : UInt32) : (gamma1 x).toBitVec = smallSigma1 x.toBitVec := by
  simp only [gamma1, smallSigma1, UInt32.toBitVec_xor]
  rw [rotr_toBitVec x 17 (by decide) (by decide), rotr_toBitVec x 19 (by decide) (by decide)]
  rfl

/-- The table K holds the constants of the standard. -/
theorem K_constant : ∀ t < 64, K[t]!.toBitVec = constant t := by decide +kernel

/-! ## The compression -/

/-- A state as the eight words of a hash value. -/
def hashValue (state : Vector UInt32 8) : Eight :=
  let h (i : Fin 8) := (state.get i).toBitVec
  ⟨h 0, h 1, h 2, h 3, h 4, h 5, h 6, h 7⟩

def Registers.eight (r : Registers) : Eight :=
  ⟨r.a.toBitVec, r.b.toBitVec, r.c.toBitVec, r.d.toBitVec,
    r.e.toBitVec, r.f.toBitVec, r.g.toBitVec, r.h.toBitVec⟩

theorem getElem!_set! {n : Nat} (w : Vector UInt32 n) (i j : Nat) (x : UInt32) (inside : j < n) :
    (w.set! i x)[j]! = if i = j then x else w[j]! := by
  rw [getElem!_pos _ j inside, getElem!_pos _ j inside, Vector.set!_eq_setIfInBounds,
    Vector.getElem_setIfInBounds inside]

/-- Four bytes shifted and joined are one word of the block. -/
theorem loadWord_toBitVec (data : Vector UInt8 64) {t : Nat} (early : t < 16) :
    (loadWord data t).toBitVec = word data.toList t := by
  have byte (i : Nat) (inside : i < 64) : data.toList.getD i 0 = data[i]! := by
    rw [getElem!_pos data i inside, List.getD_eq_getElem?_getD,
      List.getElem?_eq_getElem (by simpa using inside), Option.getD_some, Vector.getElem_toList]
  rw [word, byte _ (by omega), byte _ (by omega), byte _ (by omega), byte _ (by omega), loadWord]
  simp only [Nat.mul_comm t 4]
  generalize data[4 * t]! = b0, data[4 * t + 1]! = b1, data[4 * t + 2]! = b2,
    data[4 * t + 3]! = b3
  apply BitVec.eq_of_toNat_eq
  simp only [UInt32.toNat_toBitVec, UInt32.toNat_or, UInt32.toNat_shiftLeft, UInt8.toNat_toUInt32,
    BitVec.toNat_append, UInt8.toNat_toBitVec, Nat.shiftLeft_or_distrib, ← Nat.shiftLeft_add]
  have h0 := b0.toNat_lt
  have h1 := b1.toNat_lt
  have h2 := b2.toNat_lt
  rw [show UInt32.toNat 24 % 32 = 24 from rfl, show UInt32.toNat 16 % 32 = 16 from rfl,
    show UInt32.toNat 8 % 32 = 8 from rfl]
  simp only [Nat.shiftLeft_eq, Nat.reducePow, Nat.reduceAdd]
  rw [Nat.mod_eq_of_lt (a := b0.toNat * 16777216) (by omega),
    Nat.mod_eq_of_lt (a := b1.toNat * 65536) (by omega),
    Nat.mod_eq_of_lt (a := b2.toNat * 256) (by omega)]

theorem loadLoop_schedule (data : Vector UInt8 64) (w : Vector UInt32 64) {n : Nat} (bound : n ≤ 16) :
    ∀ t < n, (loadLoop data w n)[t]!.toBitVec = schedule data.toList t := by
  induction n with
  | zero => intro t early; omega
  | succ n ih =>
    intro t early
    rw [loadLoop, getElem!_set! _ _ _ _ (by omega)]
    by_cases last : n = t
    · subst last
      rw [if_pos rfl, loadWord_toBitVec data (by omega), schedule_message _ (by omega)]
    · rw [if_neg last]
      exact ih (by omega) t (by omega)

/-- The second loop extends a prefix of the schedule by one word an iteration. -/
theorem extendLoop_schedule {block : List UInt8} {w : Vector UInt32 64}
    (message : ∀ t < 16, w[t]!.toBitVec = schedule block t) {n : Nat} (bound : n ≤ 48) :
    ∀ t < n + 16, (extendLoop w n)[t]!.toBitVec = schedule block t := by
  induction n with
  | zero => simpa [extendLoop] using message
  | succ n ih =>
    have before := ih (by omega)
    intro t early
    simp only [extendLoop]
    rw [getElem!_set! _ _ _ _ (by omega)]
    by_cases last : n + 16 = t
    · subst last
      rw [if_pos rfl, schedule_extend, UInt32.toBitVec_add, UInt32.toBitVec_add,
        UInt32.toBitVec_add, gamma1_toBitVec, gamma0_toBitVec]
      rw [show n + 16 - 2 = n + 14 by omega, show n + 16 - 7 = n + 9 by omega,
        show n + 16 - 15 = n + 1 by omega, show n + 16 - 16 = n by omega,
        before _ (by omega), before _ (by omega), before _ (by omega), before _ (by omega)]
    · rw [if_neg last]
      exact before t (by omega)

/-- One iteration of the third loop is one round. -/
theorem compressBody_round {block : List UInt8} {w : Vector UInt32 64} {t : Nat} (r : Registers)
    (late : t < 64) (scheduled : w[t]!.toBitVec = schedule block t) :
    Registers.eight (compressBody w r t) = Fips180.round block t (Registers.eight r) := by
  simp only [compressBody, Fips180.round, Registers.eight, UInt32.toBitVec_add, sigma1_toBitVec,
    ch_toBitVec, sigma0_toBitVec, maj_toBitVec, K_constant t late, scheduled]

theorem compressLoop_rounds {block : List UInt8} {w : Vector UInt32 64} (r : Registers)
    (scheduled : ∀ t < 64, w[t]!.toBitVec = schedule block t) {n : Nat} (bound : n ≤ 64) :
    Registers.eight (compressLoop w r n) = rounds block (Registers.eight r) n := by
  induction n with
  | zero => rfl
  | succ n ih =>
    rw [compressLoop, rounds, compressBody_round _ (by omega) (scheduled n (by omega)),
      ih (by omega)]

theorem transform_compress (state : Vector UInt32 8) (data : Vector UInt8 64) :
    hashValue (transform state data) = compress (hashValue state) data.toList := by
  have scheduled : ∀ t < 64,
      (extendLoop (loadLoop data (Vector.replicate 64 0) 16) 48)[t]!.toBitVec =
        schedule data.toList t :=
    extendLoop_schedule (loadLoop_schedule data _ (Nat.le_refl 16)) (Nat.le_refl 48)
  have loop := compressLoop_rounds
    ⟨state[0], state[1], state[2], state[3], state[4], state[5], state[6], state[7]⟩
    scheduled (Nat.le_refl 64)
  rw [compress, show hashValue state = Registers.eight
    ⟨state[0], state[1], state[2], state[3], state[4], state[5], state[6], state[7]⟩ from rfl, ← loop]
  rfl

theorem initialState_initial : hashValue initialState = Fips180.initial := by decide +kernel

/-! ## Printing -/

/-- A number printed in base sixteen and filled with zeros to `k` places. -/
theorem filled_digits (k n : Nat) (positive : 0 < k) (bound : n < 16 ^ k) :
    List.replicate (k - (Nat.toDigits 16 n).length) '0' ++ Nat.toDigits 16 n =
      (List.range k).map fun i => Nat.digitChar (n / 16 ^ (k - 1 - i) % 16) := by
  induction k generalizing n with
  | zero => omega
  | succ k ih =>
    rw [List.range_succ, List.map_append, List.map_singleton, Nat.add_sub_cancel, Nat.sub_self,
      Nat.pow_zero, Nat.div_one]
    have higher : ((List.range k).map fun i => Nat.digitChar (n / 16 ^ (k - i) % 16)) =
        (List.range k).map fun i => Nat.digitChar (n / 16 / 16 ^ (k - 1 - i) % 16) := by
      apply List.map_congr_left
      intro i inside
      have below := List.mem_range.mp inside
      rw [Nat.div_div_eq_div_mul, ← Nat.pow_succ', show (k - 1 - i).succ = k - i by omega]
    rw [higher]
    rcases Nat.lt_or_ge n 16 with small | large
    · rw [Nat.toDigits_of_lt_base small, Nat.mod_eq_of_lt small, Nat.div_eq_of_lt small]
      simp only [List.length_singleton, Nat.add_sub_cancel, Nat.zero_div, Nat.zero_mod]
      rw [List.map_const', List.length_range]
      rfl
    · rw [Nat.toDigits_of_base_le (by decide) large, List.length_append, List.length_singleton,
        Nat.add_sub_add_right, ← List.append_assoc]
      rcases Nat.eq_zero_or_pos k with rfl | shorter
      · omega
      · rw [ih (n / 16) shorter (by rw [Nat.pow_succ] at bound; omega)]

theorem printWord_hexWord (x : UInt32) : printWord x = hexWord x.toBitVec :=
  filled_digits 8 x.toNat (by decide) x.toNat_lt

theorem printState_hex (state : Vector UInt32 8) : printState state = (hashValue state).hex := by
  have words : state.toList = [state.get 0, state.get 1, state.get 2, state.get 3,
      state.get 4, state.get 5, state.get 6, state.get 7] := by
    apply List.ext_getElem (by simp)
    intro i inside _
    rw [Vector.length_toList] at inside
    interval_cases i <;> rfl
  rw [printState, Eight.hex, words]
  simp only [List.flatMap_cons, List.flatMap_nil, printWord_hexWord, hashValue]

/-! ## The whole function -/

/-- The bytes of the blocks handed to transform, in order. -/
def hashedBytes (data : List UInt8) : List UInt8 :=
  hashBytes (fun seen block => seen ++ block.toList) [] data

/-- The bytes that sha256_bytes hashes are the padded message of the standard, and
what it returns is the standard's digest. -/
def Conforms (data : List UInt8) : Prop :=
  hashedBytes data = pad data ∧ sha256Bytes data = hexDigest data

/-- The zero bytes written are the fewest except for one remainder. -/
theorem zerosWritten_minimal_iff (length : Nat) :
    Sha256Context.zerosWritten length = zeroCount length ↔ length % 64 ≠ 55 := by
  unfold Sha256Context.zerosWritten zeroCount
  split <;> omega

/-- The message as the code pads it. -/
def padded (data : List UInt8) : List UInt8 :=
  data ++ [0x80] ++ List.replicate (Sha256Context.zerosWritten data.length) 0 ++
    lengthBytes (8 * data.length)

theorem padded_eq_pad_iff (data : List UInt8) : padded data = pad data ↔ data.length % 64 ≠ 55 := by
  rw [← zerosWritten_minimal_iff]
  constructor
  · intro same
    have sizes := congrArg List.length same
    simp only [padded, pad, List.length_append, List.length_replicate, length_lengthBytes] at sizes
    omega
  · intro same
    rw [padded, same, pad]

theorem padded_blocks (data : List UInt8) : 64 ∣ (padded data).length := by
  simp only [padded, List.length_append, List.length_replicate, length_lengthBytes,
    List.length_singleton, Sha256Context.zerosWritten]
  split <;> omega

section Short
variable {data : List UInt8} (short : data.length < 2 ^ 61)
include short

theorem hashedBytes_padded : hashedBytes data = padded data := by
  have processed := Sha256Context.hashBytes_processes (fun seen block => seen ++ block)
    id (fun _ _ => rfl) ([] : List UInt8) data short
  exact processed.trans (process_concat [] (padded_blocks data))

/-- What sha256_bytes returns for every input: the digits of its own padded message. -/
theorem sha256Bytes_padded :
    sha256Bytes data = (process compress Fips180.initial (padded data)).hex := by
  rw [sha256Bytes, printState_hex, Sha256Context.hashBytes_processes _ _ transform_compress _ _ short,
    initialState_initial]
  rfl

end Short

/-- sha256_bytes conforms to the standard exactly off the lengths of 55 modulo 64. -/
theorem conforms_iff (data : List UInt8) (short : data.length < 2 ^ 61) :
    Conforms data ↔ data.length % 64 ≠ 55 := by
  rw [← padded_eq_pad_iff, Conforms, hashedBytes_padded short, sha256Bytes_padded short]
  constructor
  · exact And.left
  · intro same
    refine ⟨same, ?_⟩
    rw [same, hexDigest, digest]

/-- A full block is compressed in front of the padding. -/
theorem conforms_full_block : Conforms (List.replicate 70 0x61) :=
  (conforms_iff (List.replicate 70 0x61) (by simp)).mpr (by simp)

/-! Fifty-five letters a, with the marker at the last byte before the length. -/

/-- The one block of the standard. -/
def standardBlock : Vector UInt8 64 :=
  Vector.ofFn fun i => if i < 55 then 0x61 else if i = 55 then 0x80 else if i = 62 then 0x01
    else if i = 63 then 0xb8 else 0

/-- The two blocks of the code. -/
def markedBlock : Vector UInt8 64 :=
  Vector.ofFn fun i => if i < 55 then 0x61 else if i = 55 then 0x80 else 0

def surplusBlock : Vector UInt8 64 :=
  Vector.ofFn fun i => if i = 62 then 0x01 else if i = 63 then 0xb8 else 0

theorem standard_digest :
    hexDigest (List.replicate 55 0x61) = printState (transform initialState standardBlock) := by
  have message : pad (List.replicate 55 0x61) = standardBlock.toList := by decide +kernel
  rw [printState_hex, transform_compress, hexDigest, digest, message,
    process_block _ _ (by simp), initialState_initial]

theorem computed_digest :
    sha256Bytes (List.replicate 55 0x61) =
      printState (transform (transform initialState markedBlock) surplusBlock) := by
  have message : padded (List.replicate 55 0x61) = markedBlock.toList ++ surplusBlock.toList := by
    decide +kernel
  rw [printState_hex, transform_compress, transform_compress, sha256Bytes_padded (by decide),
    message, process_cons _ _ _ (by simp), process_block _ _ (by simp), initialState_initial]

theorem marker_at_the_boundary_diverges :
    (List.replicate 55 (0x61 : UInt8)).length < 2 ^ 61 ∧
      sha256Bytes (List.replicate 55 0x61) ≠ hexDigest (List.replicate 55 0x61) ∧
      ¬ Conforms (List.replicate 55 0x61) := by
  have differ : sha256Bytes (List.replicate 55 0x61) ≠ hexDigest (List.replicate 55 0x61) := by
    rw [standard_digest, computed_digest]
    decide +kernel
  exact ⟨by decide, differ, fun conforms => differ conforms.2⟩

end PnC.Guarantees.Sha256Conformance
