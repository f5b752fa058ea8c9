import Mathlib.Data.Nat.Digits.Defs

/-!
# SHA-256 of util.cpp

sha256_impl::transform and sha256_bytes. The arrays w, state and block are
vectors; each for loop is a function of the number of iterations done.
-/
namespace PnC.Source

namespace Sha256Impl

def K : Vector UInt32 64 := #v[
  0x428a2f98, 0x71374491, 0xb5c0fbcf, 0xe9b5dba5,
  0x3956c25b, 0x59f111f1, 0x923f82a4, 0xab1c5ed5,
  0xd807aa98, 0x12835b01, 0x243185be, 0x550c7dc3,
  0x72be5d74, 0x80deb1fe, 0x9bdc06a7, 0xc19bf174,
  0xe49b69c1, 0xefbe4786, 0x0fc19dc6, 0x240ca1cc,
  0x2de92c6f, 0x4a7484aa, 0x5cb0a9dc, 0x76f988da,
  0x983e5152, 0xa831c66d, 0xb00327c8, 0xbf597fc7,
  0xc6e00bf3, 0xd5a79147, 0x06ca6351, 0x14292967,
  0x27b70a85, 0x2e1b2138, 0x4d2c6dfc, 0x53380d13,
  0x650a7354, 0x766a0abb, 0x81c2c92e, 0x92722c85,
  0xa2bfe8a1, 0xa81a664b, 0xc24b8b70, 0xc76c51a3,
  0xd192e819, 0xd6990624, 0xf40e3585, 0x106aa070,
  0x19a4c116, 0x1e376c08, 0x2748774c, 0x34b0bcb5,
  0x391c0cb3, 0x4ed8aa4a, 0x5b9cca4f, 0x682e6ff3,
  0x748f82ee, 0x78a5636f, 0x84c87814, 0x8cc70208,
  0x90befffa, 0xa4506ceb, 0xbef9a3f7, 0xc67178f2]

def rotr (x n : UInt32) : UInt32 := (x >>> n) ||| (x <<< (32 - n))

def ch (x y z : UInt32) : UInt32 := (x &&& y) ^^^ (~~~x &&& z)

def maj (x y z : UInt32) : UInt32 := (x &&& y) ^^^ (x &&& z) ^^^ (y &&& z)

def sigma0 (x : UInt32) : UInt32 := rotr x 2 ^^^ rotr x 13 ^^^ rotr x 22

def sigma1 (x : UInt32) : UInt32 := rotr x 6 ^^^ rotr x 11 ^^^ rotr x 25

def gamma0 (x : UInt32) : UInt32 := rotr x 7 ^^^ rotr x 18 ^^^ (x >>> 3)

def gamma1 (x : UInt32) : UInt32 := rotr x 17 ^^^ rotr x 19 ^^^ (x >>> 10)

/-- The word of `data` that the first loop of transform stores in w[i]. -/
def loadWord (data : Vector UInt8 64) (i : Nat) : UInt32 :=
  (data[i * 4]!.toUInt32 <<< 24) ||| (data[i * 4 + 1]!.toUInt32 <<< 16) |||
    (data[i * 4 + 2]!.toUInt32 <<< 8) ||| data[i * 4 + 3]!.toUInt32

/-- w after `n` iterations of the first loop. -/
def loadLoop (data : Vector UInt8 64) (w : Vector UInt32 64) : Nat → Vector UInt32 64
  | 0 => w
  | i + 1 => (loadLoop data w i).set! i (loadWord data i)

/-- w after `n` iterations of the second loop, whose index starts at 16. -/
def extendLoop (w : Vector UInt32 64) : Nat → Vector UInt32 64
  | 0 => w
  | n + 1 =>
    let w := extendLoop w n
    let i := n + 16
    w.set! i (gamma1 w[i - 2]! + w[i - 7]! + gamma0 w[i - 15]! + w[i - 16]!)

/-- The locals a to h. -/
structure Registers where
  (a b c d e f g h : UInt32)
  deriving DecidableEq

/-- The body of the third loop. -/
def compressBody (w : Vector UInt32 64) (r : Registers) (i : Nat) : Registers :=
  let t1 := r.h + sigma1 r.e + ch r.e r.f r.g + K[i]! + w[i]!
  let t2 := sigma0 r.a + maj r.a r.b r.c
  { h := r.g, g := r.f, f := r.e, e := r.d + t1, d := r.c, c := r.b, b := r.a, a := t1 + t2 }

def compressLoop (w : Vector UInt32 64) (r : Registers) : Nat → Registers
  | 0 => r
  | i + 1 => compressBody w (compressLoop w r i) i

def transform (state : Vector UInt32 8) (data : Vector UInt8 64) : Vector UInt32 8 :=
  let w := extendLoop (loadLoop data (Vector.replicate 64 0) 16) 48
  let r := compressLoop w
    ⟨state[0], state[1], state[2], state[3], state[4], state[5], state[6], state[7]⟩ 64
  #v[state[0] + r.a, state[1] + r.b, state[2] + r.c, state[3] + r.d,
    state[4] + r.e, state[5] + r.f, state[6] + r.g, state[7] + r.h]

end Sha256Impl

/-- The locals state, block and buffered of sha256_bytes and sha256_file; between
iterations the block is never full. -/
structure Sha256Context (σ : Type) where
  state : σ
  block : Vector UInt8 64
  buffered : Nat
  room : buffered < 64

namespace Sha256Context

/-- The locals before the loop; the source leaves block uninitialised. -/
def new {σ : Type} (state : σ) : Sha256Context σ where
  state := state
  block := Vector.replicate 64 0
  buffered := 0
  room := by decide

/-- std::memcpy to `block + offset` -/
def memcpy (block : Vector UInt8 64) (offset : Nat) : List UInt8 → Vector UInt8 64
  | [] => block
  | byte :: bytes => memcpy (block.set! offset byte) (offset + 1) bytes

/-- std::memset of `count` bytes from `block + offset` -/
def memset (block : Vector UInt8 64) (offset : Nat) (value : UInt8) (count : Nat) :
    Vector UInt8 64 :=
  memcpy block offset (List.replicate count value)

/-- The loop that stores the bit length, from index `i = count - 1` down to 0. -/
def storeLength (block : Vector UInt8 64) (bitlen : UInt64) : Nat → Vector UInt8 64
  | 0 => block
  | i + 1 => storeLength (block.set! (56 + i) (bitlen &&& 0xFF).toUInt8) (bitlen >>> 8) i

/-! flush_block calls transform on state and block; the transform is a parameter,
so that the calls themselves can be looked at. -/

section Flush
variable {σ : Type} (transform : σ → Vector UInt8 64 → σ)

/-- One iteration of the buffering loop, on a chunk that fits. -/
def bufferChunk (c : Sha256Context σ) (chunk : List UInt8) : Sha256Context σ :=
  let block := memcpy c.block c.buffered chunk
  if room : c.buffered + chunk.length < 64 then
    ⟨c.state, block, c.buffered + chunk.length, room⟩
  else ⟨transform c.state block, block, 0, by decide⟩

/-- The buffering loop over the bytes from data + offset to data + len. -/
def bufferBytes (c : Sha256Context σ) (rest : List UInt8) : Sha256Context σ :=
  if rest = [] then c
  else
    let chunk := min rest.length (64 - c.buffered)
    bufferBytes (c.bufferChunk transform (rest.take chunk)) (rest.drop chunk)
termination_by rest.length
decreasing_by
  have room := c.room
  have nonempty : rest.length ≠ 0 := fun empty => ‹rest ≠ []› (List.length_eq_zero_iff.mp empty)
  simp only [List.length_drop]
  omega

/-- From the padding comment to the last flush_block: the final state. -/
def finish (c : Sha256Context σ) (bitlen : UInt64) : σ :=
  let block := c.block.set! c.buffered 0x80
  let buffered := c.buffered + 1
  if 56 ≤ buffered then
    let block := memset block buffered 0 (64 - buffered)
    let state := transform c.state block
    transform state (storeLength (memset block 0 0 56) bitlen 8)
  else
    transform c.state (storeLength (memset block buffered 0 (56 - buffered)) bitlen 8)

end Flush

end Sha256Context

/-- The body of sha256_bytes up to the printing. -/
def hashBytes {σ : Type} (transform : σ → Vector UInt8 64 → σ) (state : σ) (data : List UInt8) : σ :=
  ((Sha256Context.new state).bufferBytes transform data).finish transform
    (UInt64.ofNat data.length * 8)

def initialState : Vector UInt32 8 := #v[
  0x6a09e667, 0xbb67ae85, 0x3c6ef372, 0xa54ff53a,
  0x510e527f, 0x9b05688c, 0x1f83d9ab, 0x5be0cd19]

/-- One `<<` with std::hex, std::setfill('0') and std::setw(8). -/
def printWord (x : UInt32) : List Char :=
  let digits := Nat.toDigits 16 x.toNat
  List.replicate (8 - digits.length) '0' ++ digits

/-- The ostringstream of the eight state words. -/
def printState (state : Vector UInt32 8) : String :=
  String.ofList (state.toList.flatMap printWord)

def sha256Bytes (data : List UInt8) : String :=
  printState (hashBytes Sha256Impl.transform initialState data)

end PnC.Source
