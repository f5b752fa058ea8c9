import PnC.Source.BenchPlugin
import PnC.Source.FileSystem
import PnC.Source.Message

/-!
# BENCH handler

BENCH_Handler.cpp of the consumer. A text is handed to base64_decode by its bytes. The
clock and the texts of exceptions are arguments.
-/
namespace PnC.Source

/-- The array `table` of base64_decode. -/
def base64Value (c : UInt8) : Nat :=
  if 97 ≤ c.toNat ∧ c.toNat < 97 + 26 then 26 + (c.toNat - 97)
  else if 65 ≤ c.toNat ∧ c.toNat < 65 + 26 then c.toNat - 65
  else if 48 ≤ c.toNat ∧ c.toNat < 48 + 10 then 52 + (c.toNat - 48)
  else if c.toNat = 47 then 63
  else if c.toNat = 43 then 62
  else 0

/-- The locals of base64_decode's while loop. -/
structure Decoding where
  i : Nat
  output : List UInt8
  deriving DecidableEq

namespace Decoding

/-- `input[i + k] != '='`, within the input -/
def hasDigit (input : List UInt8) (i k : Nat) : Bool :=
  decide (i + k < input.length) && decide (input.getD (i + k) 0 ≠ 61)

/-- `table[static_cast<unsigned char>(input[i + k])]` -/
def digit (input : List UInt8) (i k : Nat) : Nat := base64Value (input.getD (i + k) 0)

/-- The body of the while loop: the size of the group is looked for from its end. -/
def body (input : List UInt8) (s : Decoding) : Decoding :=
  let digit := digit input s.i
  let byte (o shift : Nat) : UInt8 := UInt8.ofNat (o >>> shift &&& 0xFF)
  if hasDigit input s.i 3 then
    let o := digit 0 <<< 18 ||| digit 1 <<< 12 ||| digit 2 <<< 6 ||| digit 3
    ⟨s.i + 4, s.output ++ [byte o 16, byte o 8, byte o 0]⟩
  else if hasDigit input s.i 2 then
    let o := digit 0 <<< 18 ||| digit 1 <<< 12 ||| digit 2 <<< 6
    ⟨s.i + 4, s.output ++ [byte o 16, byte o 8]⟩
  else if hasDigit input s.i 1 then
    let o := digit 0 <<< 18 ||| digit 1 <<< 12
    ⟨s.i + 4, s.output ++ [byte o 16]⟩
  else ⟨s.i + 1, s.output⟩

theorem lt_body (input : List UInt8) (s : Decoding) : s.i < (body input s).i := by
  unfold body
  dsimp only
  split_ifs <;> simp

/-- The while loop; every iteration moves i on. -/
def loop (input : List UInt8) (s : Decoding) : List UInt8 :=
  if s.i < input.length then loop input (body input s) else s.output
termination_by input.length - s.i
decreasing_by
  have further := lt_body input s
  omega

end Decoding

def base64Decode (input : List UInt8) : List UInt8 := Decoding.loop input ⟨0, []⟩

namespace BenchHandler

/-- Where the handler looks for its copy of the source file. -/
def localPath (fs : FileSystem) (sourceFile : String) : Except Exception Path := do
  let named := Path.ofString sourceFile
  if ← fs.pathExists named then return named
  let filename := named.filename
  if ← fs.pathExists filename then return filename
  return Path.ofString "./" ++ filename

/-- local_chunk as it is after the read: resize has filled it with zeros. A directory
opens, and the read from it fails. -/
def readLocal (fs : FileSystem) (path : Path) (offset chunkSize : Int) :
    Except Exception (List UInt8) :=
  match fs.status path with
  | some (.file content) =>
    if chunkSize < 0 then .error .lengthError
    else .ok (BenchState.readChunk content offset chunkSize.toNat)
  | some (.directory ..) =>
    if chunkSize < 0 then .error .lengthError else .ok (List.replicate chunkSize.toNat 0)
  | some (.unreadable _) | some .inaccessible | none => .ok []

/-- local_chunk, which stays empty without a source file. -/
def localChunk (fs : FileSystem) (sourceFile : String) (offset chunkSize : Int) :
    Except Exception (List UInt8) := do
  if sourceFile = "" then return []
  let path ← localPath fs sourceFile
  if ← fs.pathExists path then readLocal fs path offset chunkSize else return []

/-- The try block, up to its result; what base64_decode gives is not looked at. -/
def compareChunk (fs : FileSystem) (duration : Int) (work : WorkUnitMessage) :
    Except Exception Json := do
  let offset ← work.job.value "offset" 0 Json.getInt
  let chunkSize ← work.job.value "chunk_size" 128 Json.getInt
  let dataB64 ← work.job.value "data" "" Json.getString
  let expectedHash ← work.job.value "hash" "" Json.getString
  let _expected := base64Decode dataB64.toUTF8.data.toList
  let chunk ← localChunk fs work.sourceFile offset chunkSize
  let actualHash := if chunk = [] then "" else sha256Bytes chunk
  return .object [("match", .boolean (decide (chunk ≠ [] ∧ actualHash = expectedHash))),
    ("offset", .numberInteger offset), ("chunk_size", .numberInteger chunkSize),
    ("expected_hash", .string expectedHash), ("actual_hash", .string actualHash),
    ("duration_ms", .numberInteger duration)]

/-- BENCH_Handler::handle -/
def handle (fs : FileSystem) (what : Exception → String) (duration : Int)
    (work : WorkUnitMessage) : ResultMessage :=
  let answer (status : String) (result : Json) : ResultMessage :=
    { workUnitId := work.workUnitId, seq := work.seq, consumerId := "", status, result,
      timestamp := "", foundPassword := none, fileError := none }
  match compareChunk fs duration work with
  | .ok result => answer "success" result
  | .error e => answer "failure" (.object [("error", .string (what e))])

end BenchHandler

end PnC.Source
