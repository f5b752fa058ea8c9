import PnC.Source.Message

/-!
# Wire messages through from_string

from_json reads every field back in its own type but one: seq is an int64_t that is
read with the default 0, an int. permutation_seed, of the same type, is read through
get<int64_t>.
-/
namespace PnC.Guarantees.MessageRoundTrip

open PnC.Source

/-- A message of any of the five classes. -/
inductive WireMessage where
  | workUnit (m : WorkUnitMessage)
  | result (m : ResultMessage)
  | workRequest (m : WorkRequestMessage)
  | heartbeat (m : HeartbeatMessage)
  | version (m : VersionMessage)

namespace WireMessage

def toJson : WireMessage → Json
  | workUnit m => m.toJson
  | result m => m.toJson
  | workRequest m => m.toJson
  | heartbeat m => m.toJson
  | version m => m.toJson

/-- The numbers are values of their C++ types. -/
def Typed : WireMessage → Prop
  | workUnit m => FitsInt64 m.seq ∧ ∀ seed, m.permutationSeed = some seed → FitsInt64 seed
  | result m => FitsInt64 m.seq
  | workRequest m => FitsInt32 m.threadsAvailable
  | heartbeat _ => True
  | version _ => True

/-- `from_string(to_string(m))` is m. -/
def RoundTrips (text : JsonText) : WireMessage → Prop
  | workUnit m => WorkUnitMessage.fromString text (m.toString text) = .ok m
  | result m => ResultMessage.fromString text (m.toString text) = .ok m
  | workRequest m => WorkRequestMessage.fromString text (m.toString text) = .ok m
  | heartbeat m => HeartbeatMessage.fromString text (m.toString text) = .ok m
  | version m => VersionMessage.fromString text (m.toString text) = .ok m

/-- The seq, of a message that has one, is in the range of int. -/
def SeqFits : WireMessage → Prop
  | workUnit m => FitsInt32 m.seq
  | result m => FitsInt32 m.seq
  | workRequest _ => True
  | heartbeat _ => True
  | version _ => True

end WireMessage

/-- Where the text is parsed back, from_string is from_json after to_json. -/
theorem parse_dump_bind {α : Type} {text : JsonText} {j : Json} (read : Json → Except Exception α)
    (undone : text.parse (text.dump j) = .ok j) : text.parse (text.dump j) >>= read = read j := by
  rw [undone]
  rfl

theorem workUnit_roundTrips_iff {text : JsonText} {m : WorkUnitMessage}
    (seed : ∀ n, m.permutationSeed = some n → FitsInt64 n)
    (undone : text.parse (text.dump m.toJson) = .ok m.toJson) :
    WorkUnitMessage.fromString text (m.toString text) = .ok m ↔ FitsInt32 m.seq := by
  have kept : m.permutationSeed.map toInt64 = m.permutationSeed := by
    cases given : m.permutationSeed with
    | none => rfl
    | some n => exact congrArg some (toInt64_of_fits (seed n given))
  rw [WorkUnitMessage.fromString, WorkUnitMessage.toString, parse_dump_bind _ undone,
    WorkUnitMessage.fromJson_toJson, kept, ← toInt32_eq_self_iff]
  constructor
  · intro same
    exact congrArg WorkUnitMessage.seq (Except.ok.inj same)
  · intro same
    rw [same]

theorem result_roundTrips_iff {text : JsonText} {m : ResultMessage}
    (undone : text.parse (text.dump m.toJson) = .ok m.toJson) :
    ResultMessage.fromString text (m.toString text) = .ok m ↔ FitsInt32 m.seq := by
  rw [ResultMessage.fromString, ResultMessage.toString, parse_dump_bind _ undone,
    ResultMessage.fromJson_toJson, ← toInt32_eq_self_iff]
  constructor
  · intro same
    exact congrArg ResultMessage.seq (Except.ok.inj same)
  · intro same
    rw [same]

/-- A message comes back whole exactly when its seq, if it has one, is in the range of
int. -/
theorem message_round_trips_iff (text : JsonText) (m : WireMessage) (typed : m.Typed)
    (undone : text.parse (text.dump m.toJson) = .ok m.toJson) :
    m.RoundTrips text ↔ m.SeqFits := by
  cases m with
  | workUnit m => exact workUnit_roundTrips_iff typed.2 undone
  | result m => exact result_roundTrips_iff undone
  | workRequest m =>
    refine ⟨fun _ => trivial, fun _ => ?_⟩
    refine (parse_dump_bind WorkRequestMessage.fromJson undone).trans ?_
    refine (WorkRequestMessage.fromJson_toJson m).trans ?_
    rw [toInt32_of_fits typed]
  | heartbeat m =>
    refine ⟨fun _ => trivial, fun _ => ?_⟩
    exact parse_dump_bind HeartbeatMessage.fromJson undone
  | version m =>
    refine ⟨fun _ => trivial, fun _ => ?_⟩
    exact parse_dump_bind VersionMessage.fromJson undone

/-- A result as a consumer sends it. -/
def resultOf (seq : Int) : ResultMessage :=
  ⟨"prod-1-1", seq, "cons-1", "success", .object [], "", none, none⟩

/-- The text that dump makes of it. -/
def resultText (seq : Int) : String :=
  "\x7b\"consumer_id\":\"cons-1\",\"msg_type\":\"result\",\"result\":\x7b\x7d,\"seq\":" ++
    toString seq ++ ",\"status\":\"success\",\"timestamp\":\"\",\"work_unit_id\":\"prod-1-1\"\x7d"

/-- dump and parse on this one document. -/
def resultJsonText (seq : Int) : JsonText where
  dump _ := resultText seq
  parse s := if s = resultText seq then .ok (resultOf seq).toJson
    else .error (.runtimeError "parse_error")

theorem undone_result (seq : Int) :
    (resultJsonText seq).parse ((resultJsonText seq).dump (resultOf seq).toJson) =
      .ok (resultOf seq).toJson := if_pos rfl

theorem message_round_trips_iff_first_result :
    WireMessage.RoundTrips (resultJsonText 1) (.result (resultOf 1)) ↔ FitsInt32 1 :=
  message_round_trips_iff (resultJsonText 1) (.result (resultOf 1)) (show FitsInt64 1 by decide)
    (undone_result 1)

/-- Unit 2^31 comes back as unit -2^31. -/
theorem large_seq_is_reduced :
    ¬ ∀ (text : JsonText) (m : WireMessage), m.Typed →
      text.parse (text.dump m.toJson) = .ok m.toJson → m.RoundTrips text := by
  intro claimed
  have back := claimed (resultJsonText 2147483648) (.result (resultOf 2147483648))
    (show FitsInt64 2147483648 by decide) (undone_result 2147483648)
  have fits := (result_roundTrips_iff (undone_result 2147483648)).mp back
  revert fits
  decide

end PnC.Guarantees.MessageRoundTrip
