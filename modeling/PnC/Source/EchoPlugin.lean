import PnC.Source.ProducerRun
import PnC.Source.Sha256

/-!
# ECHO plugin

ECHO_plugin.cpp. The generator rng is seeded and never used. The counters
generated and seq are atomic<int64_t> and wrap. `seq.load() + i` in the payload is
undefined where it leaves int64_t and is taken without a bound here.
-/
namespace PnC.Source

structure EchoState where
  payloadSize : Int
  totalUnits : Int
  generated : Int
  seq : Int
  deriving DecidableEq

namespace EchoState

def new : EchoState := ⟨64, 0, 0, 0⟩

/-- The try block of startup: a read that throws ends it. -/
def readConfig (s : EchoState) (cfg : Json) : EchoState :=
  match cfg.value "payload_size" 64 Json.getInt with
  | .error _ => s
  | .ok payloadSize =>
    let s := { s with payloadSize := payloadSize }
    match cfg.value "total_units" 0 Json.getInt with
    | .error _ => s
    | .ok totalUnits => { s with totalUnits := totalUnits }

/-- startup up to the look at resume_state; a config file may be missing. -/
def configured : Option Json → EchoState
  | some cfg => new.readConfig cfg
  | none => new

/-- startup -/
def startup (config : Option Json) (resume : Json) : Except StartupFailure EchoState := do
  let s := configured config
  if resume.isEmpty then return s
  let generated ← resumeField resume "generated" s.generated Json.getInt64
  let seq ← resumeField resume "seq" s.seq Json.getInt64
  return { s with generated := generated, seq := seq }

/-- `'A' + (seq + i) % 26` -/
def payloadChar (seq : Int) (i : Nat) : Char :=
  Char.ofNat (65 + (seq + i).tmod 26).toNat

def payload (s : EchoState) : List Char :=
  (List.range s.payloadSize.toNat).map (payloadChar s.seq)

def job (s : EchoState) : Json :=
  .object [("task", .string "ECHO"), ("payload", .string (String.ofList s.payload)),
    ("hash", .string (sha256Bytes (s.payload.map fun c => UInt8.ofNat c.toNat))),
    ("seq", .numberInteger s.seq)]

/-- All units of a limited job have been generated. -/
def isDone (s : EchoState) : Bool := decide (0 < s.totalUnits ∧ s.totalUnits ≤ s.generated)

/-- The increments of next_unit. -/
def advance (s : EchoState) : EchoState :=
  { s with seq := toInt64 (s.seq + 1), generated := toInt64 (s.generated + 1) }

def nextUnit (s : EchoState) : NextUnit EchoState :=
  if s.isDone then .exhausted s else .unit s.advance s.advance.job

def checkpoint (s : EchoState) : Json :=
  .object [("generated", .numberInteger s.generated), ("seq", .numberInteger s.seq)]

end EchoState

/-- create_echo_plugin -/
def createEchoPlugin : TestPlugin EchoState where
  nextUnit := EchoState.nextUnit
  checkpoint := EchoState.checkpoint
  exitConditions := EchoState.isDone

/-! ## An ECHO job, for runs on fixed inputs -/

/-- One unit in all. -/
def EchoState.oneUnit : EchoState := { EchoState.new with totalUnits := 1 }

def echoJob : JobSetup := ⟨"prod-1", "ECHO", "", "", "sequential", 0⟩

/-- An ECHO producer that has sent nothing yet. -/
def echoProducer (state : EchoState) : Producer EchoState := .started echoJob 0 state

def echoStart : Producer EchoState := echoProducer .new

end PnC.Source
