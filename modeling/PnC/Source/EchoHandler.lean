import PnC.Library.Ascii
import PnC.Source.EchoPlugin
import PnC.Source.QuietDeployment

/-!
# ECHO handler

ECHO_Handler.cpp of the consumer. The delay is drawn and slept with floating point: what is
left of it in the result is an argument, like the clock and the texts of exceptions.
-/
namespace PnC.Source

open PnC.Library

namespace EchoHandler

/-- The try block, up to its result. A payload is hashed by its bytes. -/
def compare (delay duration : Int) (work : WorkUnitMessage) : Except Exception Json := do
  let payload ← work.job.value "payload" "" Json.getString
  let expectedHash ← work.job.value "hash" "" Json.getString
  let bytes := payload.toUTF8.data.toList
  let actualHash := sha256Bytes bytes
  return .object [("match", .boolean (decide (actualHash = expectedHash))),
    ("payload_size", .numberInteger (toInt32 bytes.length)),
    ("expected_hash", .string expectedHash), ("actual_hash", .string actualHash),
    ("delay_ms", .numberInteger delay), ("duration_ms", .numberInteger duration)]

/-- ECHO_Handler::handle -/
def handle (what : Exception → String) (delay duration : Int) (work : WorkUnitMessage) :
    ResultMessage :=
  let answer (status : String) (result : Json) : ResultMessage :=
    { workUnitId := work.workUnitId, seq := work.seq, consumerId := "", status, result,
      timestamp := "", foundPassword := none, fileError := none }
  match compare delay duration work with
  | .ok result => answer "success" result
  | .error e => answer "failure" (.object [("error", .string (what e))])

end EchoHandler

namespace EchoState

/-- A negative count gives a character below 'A', which is one of ASCII all the same. -/
theorem payload_ascii (s : EchoState) : ∀ c ∈ s.payload, c.toNat < 128 := by
  intro c member
  obtain ⟨i, -, rfl⟩ := List.mem_map.mp member
  unfold payloadChar
  have low := Int.lt_tmod_of_pos (s.seq + i) (show (0 : Int) < 26 by decide)
  have high := Int.tmod_lt_of_pos (s.seq + i) (show (0 : Int) < 26 by decide)
  have ascii : ∀ n < 128, (Char.ofNat n).toNat < 128 := by decide
  exact ascii _ (by omega)

/-- The handler agrees with the plugin about every job, whatever state it comes from. -/
theorem compare_job (s : EchoState) (delay duration : Int) {work : WorkUnitMessage}
    (carried : work.job = s.job) :
    ∃ result, EchoHandler.compare delay duration work = .ok result ∧
      result.find "match" = some (.boolean true) := by
  have payload : work.job.value "payload" "" Json.getString = .ok (String.ofList s.payload) := by
    rw [carried]
    rfl
  have hash : work.job.value "hash" "" Json.getString =
      .ok (sha256Bytes (s.payload.map fun c => UInt8.ofNat c.toNat)) := by
    rw [carried]
    rfl
  have bytes := utf8_of_ascii s.payload_ascii
  unfold EchoHandler.compare
  rw [payload, hash]
  refine ⟨_, rfl, ?_⟩
  simp only [Json.find, bytes]
  simp [List.lookup]

end EchoState

/-! ## One ECHO unit and one consumer, for runs on fixed inputs -/

/-- What ECHO_Handler makes of a unit. -/
def Echoes (_ : Nat) (work : WorkUnitMessage) (result : ResultMessage) : Prop :=
  ∃ what delay duration, result = EchoHandler.handle what delay duration work

/-- The producer after startup with a payload_size of 0 and a total_units of 1. -/
def loneEchoProducer : Producer EchoState :=
  .started ⟨"prod-1", "ECHO", "/data/source.bin", "", "sequential", 0⟩ 1 ⟨0, 1, 0, 0⟩

def loneEcho : LoneUnit where
  testType := "ECHO"
  workUnitId := "prod-1-1"
  seq := 1
  field := ("task", .string "ECHO")
  fields :=
    [("payload", .string (String.ofList (⟨0, 1, 1, 1⟩ : EchoState).payload)),
      ("hash", .string (sha256Bytes [])), ("seq", .numberInteger 1)]
  text :=
    "\x7b\"job\":\x7b\"hash\":" ++
      "\"e3b0c44298fc1c149afbf4c8996fb92427ae41e4649b934ca495991b7852b855\"," ++
      "\"payload\":\"\",\"seq\":1,\"task\":\"ECHO\"\x7d,\"msg_type\":\"work_unit\"," ++
      "\"permutation\":\"\",\"producer_id\":\"prod-1\",\"seq\":1," ++
      "\"source_file\":\"/data/source.bin\",\"test_type\":\"ECHO\",\"timestamp\":\"\"," ++
      "\"work_unit_id\":\"prod-1-1\"\x7d"
  named := by decide
  small := rfl

def loneEchoResult : ResultMessage := EchoHandler.handle (fun _ => "") 0 0 loneEcho.message

def loneEchoFinal : Deployment EchoState :=
  LoneUnit.final createEchoPlugin loneEcho loneEchoProducer loneEchoResult

theorem offers_echoJob {made : Json} (offers : createEchoPlugin.Offers made) :
    ∃ t : EchoState, made = t.job := by
  obtain ⟨t, next, call⟩ := offers
  unfold createEchoPlugin EchoState.nextUnit at call
  dsimp only at call
  split at call
  · cases call
  · cases call
    exact ⟨t.advance, rfl⟩

theorem lone_echo :
    DeploymentRun createEchoPlugin loneEcho.consumers Echoes loneEchoProducer
      (LoneUnit.events loneEchoResult) loneEchoFinal := by
  have filled (job : Json) (offers : createEchoPlugin.Offers job) : job.isEmpty = false := by
    obtain ⟨t, rfl⟩ := offers_echoJob offers
    rfl
  exact LoneUnit.run_lone ⟨fun _ => "", 0, 0, rfl⟩ filled rfl rfl rfl rfl rfl rfl rfl rfl

theorem lone_echo_quiet (n : Nat) (link : Link) (present : loneEchoFinal.links n = some link) :
    link.Quiet loneEchoFinal.world n :=
  LoneUnit.quiet_lone rfl (fun _ => rfl) rfl rfl rfl rfl rfl rfl rfl n link present

end PnC.Source
