import PnC.Source.Sha256
import PnC.Source.TestPlugin

/-!
# BENCH plugin

BENCH_plugin.cpp. The source file is its content, which does not change while the
producer runs. total_chunks is computed and never read; what is kept of it is its
division.
-/
namespace PnC.Source

/-- The table of base64_encode. -/
def base64Table : List Char :=
  "ABCDEFGHIJKLMNOPQRSTUVWXYZabcdefghijklmnopqrstuvwxyz0123456789+/".toList

/-- `table[(o >> shift) & 0x3F]` -/
def base64Char (o shift : Nat) : Char := base64Table.getD (o / 2 ^ shift % 64) '='

/-- base64_encode, three bytes an iteration -/
def base64Encode : List UInt8 → List Char
  | [] => []
  | [a] =>
    let o := a.toNat * 2 ^ 16
    [base64Char o 18, base64Char o 12, '=', '=']
  | [a, b] =>
    let o := a.toNat * 2 ^ 16 + b.toNat * 2 ^ 8
    [base64Char o 18, base64Char o 12, base64Char o 6, '=']
  | a :: b :: c :: rest =>
    let o := a.toNat * 2 ^ 16 + b.toNat * 2 ^ 8 + c.toNat
    base64Char o 18 :: base64Char o 12 :: base64Char o 6 :: base64Char o 0 :: base64Encode rest

structure BenchState where
  /-- the content of source_file, if one is set -/
  sourceFile : Option (List UInt8)
  chunkSize : Int
  fileSize : Int
  offset : Int
  processed : Int
  seq : Int

namespace BenchState

def new : BenchState := ⟨none, 128, 0, 0, 0, 0⟩

/-- The try block of startup. -/
def readConfig (s : BenchState) (cfg : Json) : BenchState :=
  match cfg.value "chunk_size" 128 Json.getInt with
  | .error _ => s
  | .ok chunkSize => { s with chunkSize := chunkSize }

/-- startup up to the look at resume_state; a config file may be missing. -/
def configured : Option Json → BenchState
  | some cfg => new.readConfig cfg
  | none => new

/-- startup -/
def startup (config : Option Json) (resume : Json) : Except StartupFailure BenchState := do
  let s := configured config
  if resume.isEmpty then return s
  let offset ← resumeField resume "offset" s.offset Json.getInt64
  let processed ← resumeField resume "processed" s.processed Json.getInt64
  let seq ← resumeField resume "seq" s.seq Json.getInt64
  return { s with offset := offset, processed := processed, seq := seq }

/-- set_bench_source_file, for a file that exists. -/
def setBenchSourceFile (s : BenchState) (content : List UInt8) :
    Except StartupFailure BenchState :=
  if s.chunkSize = 0 then .error (.fault .divisionByZero)
  else .ok { s with sourceFile := some content, fileSize := toInt64 content.length }

/-- What init_plugin does after startup, when a source_file is configured. -/
def givenSource (s : BenchState) : Option (List UInt8) → Except StartupFailure BenchState
  | some content => s.setBenchSourceFile content
  | none => .ok s

/-- What file.read leaves in the chunk, which was zeroed. After a seekg to a negative
offset nothing is read. -/
def readChunk (content : List UInt8) (offset : Int) (toRead : Nat) : List UInt8 :=
  if offset < 0 then List.replicate toRead 0
  else ((content.drop offset.toNat).take toRead).rightpad toRead 0

def job (offset toRead seq : Int) (chunk : List UInt8) : Json :=
  .object [("task", .string "BENCH"), ("offset", .numberInteger offset),
    ("chunk_size", .numberInteger toRead), ("data", .string (String.ofList (base64Encode chunk))),
    ("hash", .string (sha256Bytes chunk)), ("seq", .numberInteger seq)]

/-- A negative chunk size asks for a vector longer than any may be. -/
def nextUnit (s : BenchState) : NextUnit BenchState :=
  match s.sourceFile with
  | none => .exhausted s
  | some content =>
    if s.fileSize ≤ s.offset then .exhausted s
    else
      let toRead := min s.chunkSize (s.fileSize - s.offset)
      if toRead < 0 then .threw s .lengthError
      else
        let seq := toInt64 (s.seq + 1)
        .unit { s with seq := seq, offset := toInt64 (s.offset + toRead) }
          (job s.offset toRead seq (readChunk content s.offset toRead.toNat))

def checkpoint (s : BenchState) : Json :=
  .object [("offset", .numberInteger s.offset), ("seq", .numberInteger s.seq)]

/-- exit_conditions -/
def isDone (s : BenchState) : Bool := decide (s.fileSize ≤ s.offset)

end BenchState

/-- create_bench_plugin -/
def createBenchPlugin : TestPlugin BenchState where
  nextUnit := BenchState.nextUnit
  checkpoint := BenchState.checkpoint
  exitConditions := BenchState.isDone

end PnC.Source
