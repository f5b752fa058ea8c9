import Mathlib.Algebra.Group.Nat.Defs
import Mathlib.Data.Nat.NthRoot.Defs
import Mathlib.Order.Bounds.Basic

/-!
# The Secure Hash Standard, SHA-256

FIPS 180-4 as it is printed: words and their functions (4.1.2), the constants
(4.2.2, 5.3.3), padding (5.1.1), parsing (5.2.1) and the hash computation (6.2.2).
Messages are byte strings.
-/
namespace PnC.Library.Fips180

abbrev Word := BitVec 32

/-! ## Functions -/

def ch (x y z : Word) : Word := (x &&& y) ^^^ (~~~x &&& z)

def maj (x y z : Word) : Word := (x &&& y) ^^^ (x &&& z) ^^^ (y &&& z)

def bigSigma0 (x : Word) : Word := x.rotateRight 2 ^^^ x.rotateRight 13 ^^^ x.rotateRight 22

def bigSigma1 (x : Word) : Word := x.rotateRight 6 ^^^ x.rotateRight 11 ^^^ x.rotateRight 25

def smallSigma0 (x : Word) : Word := x.rotateRight 7 ^^^ x.rotateRight 18 ^^^ x >>> 3

def smallSigma1 (x : Word) : Word := x.rotateRight 17 ^^^ x.rotateRight 19 ^^^ x >>> 10

/-! ## Constants -/

/-- The first sixty-four primes. -/
def primes : List Nat :=
  (List.range 312).filter fun n =>
    decide (2 ≤ n) && (List.range n).all fun d => decide (d < 2) || decide (n % d ≠ 0)

/-- The first thirty-two bits of the fractional part of the n-th root. -/
def rootFraction (n p : Nat) : Word := BitVec.ofNat 32 (Nat.nthRoot n (p * 2 ^ (32 * n)))

/-- The constants K of 4.2.2, from the cube roots of the primes. -/
def constant (t : Nat) : Word := rootFraction 3 (primes.getD t 0)

/-! ## Preprocessing -/

/-- The zero bytes between the marker and the length. -/
def zeroCount (length : Nat) : Nat := (119 - length % 64) % 64

/-- No fewer zero bytes bring the message to 56 modulo 64. -/
theorem zeroCount_isLeast (length : Nat) :
    IsLeast {zeros | (length + 1 + zeros) % 64 = 56} (zeroCount length) := by
  constructor
  · simp only [Set.mem_ofPred_eq, zeroCount]
    omega
  · intro zeros fits
    simp only [Set.mem_ofPred_eq] at fits
    simp only [zeroCount]
    omega

/-- A bit length as eight bytes, most significant first. -/
def lengthBytes (bits : Nat) : List UInt8 :=
  (List.range 8).map fun i => UInt8.ofNat (bits / 256 ^ (7 - i))

/-- The padded message of 5.1.1. -/
def pad (message : List UInt8) : List UInt8 :=
  message ++ [0x80] ++ List.replicate (zeroCount message.length) 0 ++
    lengthBytes (8 * message.length)

theorem length_lengthBytes (bits : Nat) : (lengthBytes bits).length = 8 := by
  simp [lengthBytes]

/-! ## Hash computation -/

/-- Word `t` of a block: four bytes, the first the most significant. -/
def word (block : List UInt8) (t : Nat) : Word :=
  (block.getD (4 * t) 0).toBitVec ++ (block.getD (4 * t + 1) 0).toBitVec ++
    (block.getD (4 * t + 2) 0).toBitVec ++ (block.getD (4 * t + 3) 0).toBitVec

/-- The message schedule. -/
def schedule (block : List UInt8) (t : Nat) : Word :=
  if t < 16 then word block t
  else smallSigma1 (schedule block (t - 2)) + schedule block (t - 7) +
    smallSigma0 (schedule block (t - 15)) + schedule block (t - 16)
termination_by t

theorem schedule_message (block : List UInt8) {t : Nat} (early : t < 16) :
    schedule block t = word block t := by
  rw [schedule, if_pos early]

theorem schedule_extend (block : List UInt8) (t : Nat) :
    schedule block (t + 16) =
      smallSigma1 (schedule block (t + 14)) + schedule block (t + 9) +
        smallSigma0 (schedule block (t + 1)) + schedule block t := by
  rw [schedule, if_neg (by omega)]
  rfl

/-- The eight words of a hash value, and the eight working variables. -/
structure Eight where
  (a b c d e f g h : Word)
  deriving DecidableEq

/-- One of the sixty-four rounds. -/
def round (block : List UInt8) (t : Nat) (v : Eight) : Eight :=
  let t1 := v.h + bigSigma1 v.e + ch v.e v.f v.g + constant t + schedule block t
  let t2 := bigSigma0 v.a + maj v.a v.b v.c
  ⟨t1 + t2, v.a, v.b, v.c, v.d + t1, v.e, v.f, v.g⟩

/-- The working variables after the first `count` rounds. -/
def rounds (block : List UInt8) (v : Eight) : Nat → Eight
  | 0 => v
  | count + 1 => round block count (rounds block v count)

def Eight.add (x y : Eight) : Eight :=
  ⟨x.a + y.a, x.b + y.b, x.c + y.c, x.d + y.d, x.e + y.e, x.f + y.f, x.g + y.g, x.h + y.h⟩

/-- The intermediate hash value after one more block. -/
def compress (hash : Eight) (block : List UInt8) : Eight := hash.add (rounds block hash 64)

/-- The hash value of 5.3.3, from the square roots of the first eight primes. -/
def initial : Eight :=
  let h i := rootFraction 2 (primes.getD i 0)
  ⟨h 0, h 1, h 2, h 3, h 4, h 5, h 6, h 7⟩

/-- The value after all whole blocks of a byte string, for a compression of
sixty-four bytes into a hash value. -/
def process {σ : Type} (compress : σ → List UInt8 → σ) (hash : σ) (bytes : List UInt8) : σ :=
  if 64 ≤ bytes.length then process compress (compress hash (bytes.take 64)) (bytes.drop 64)
  else hash
termination_by bytes.length
decreasing_by simp only [List.length_drop]; omega

def digest (message : List UInt8) : Eight := process compress initial (pad message)

/-- A word as eight hexadecimal digits, most significant first. -/
def hexWord (x : Word) : List Char :=
  (List.range 8).map fun i => Nat.digitChar (x.toNat / 16 ^ (7 - i) % 16)

def Eight.hex (v : Eight) : String :=
  String.ofList ([v.a, v.b, v.c, v.d, v.e, v.f, v.g, v.h].flatMap hexWord)

/-- The digest in lower-case hexadecimal. -/
def hexDigest (message : List UInt8) : String := (digest message).hex

/-! ## Blocks -/

section Process
variable {σ : Type} (compress : σ → List UInt8 → σ) (hash : σ)

theorem process_short (bytes : List UInt8) (short : bytes.length < 64) :
    process compress hash bytes = hash := by
  rw [process, if_neg (Nat.not_le.mpr short)]

theorem process_cons {block : List UInt8} (rest : List UInt8) (full : block.length = 64) :
    process compress hash (block ++ rest) = process compress (compress hash block) rest := by
  rw [process, if_pos (by simp [full]), List.take_left' full, List.drop_left' full]

/-- Whole blocks are processed before what follows them. -/
theorem process_append (whole rest : List UInt8) (blocks : 64 ∣ whole.length) :
    process compress hash (whole ++ rest) = process compress (process compress hash whole) rest := by
  obtain ⟨count, size⟩ := blocks
  induction count generalizing hash whole with
  | zero =>
    obtain rfl : whole = [] := List.length_eq_zero_iff.mp size
    rw [process_short compress hash [] (by simp), List.nil_append]
  | succ count ih =>
    have first : (whole.take 64).length = 64 := by
      rw [List.length_take]
      omega
    have split : whole = whole.take 64 ++ whole.drop 64 := (List.take_append_drop 64 whole).symm
    rw [split, List.append_assoc, process_cons compress hash _ first,
      process_cons compress hash _ first]
    exact ih _ _ (by rw [List.length_drop]; omega)

theorem process_block {block : List UInt8} (full : block.length = 64) :
    process compress hash block = compress hash block := by
  rw [← List.append_nil block, process_cons compress hash [] full, List.append_nil]
  exact process_short _ _ _ (by decide)

/-- With concatenation for compression the whole blocks come out again. -/
theorem process_concat (seen : List UInt8) {bytes : List UInt8} (blocks : 64 ∣ bytes.length) :
    process (· ++ ·) seen bytes = seen ++ bytes := by
  obtain ⟨count, size⟩ := blocks
  induction count generalizing seen bytes with
  | zero =>
    obtain rfl : bytes = [] := List.length_eq_zero_iff.mp size
    rw [process_short _ _ _ (by decide), List.append_nil]
  | succ count ih =>
    rw [process, if_pos (by omega), ih _ (by rw [List.length_drop]; omega), List.append_assoc,
      List.take_append_drop]

end Process

end PnC.Library.Fips180
