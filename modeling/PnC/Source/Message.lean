import PnC.Source.Json

/-!
# Wire messages

The five message records of message.h with their JSON conversions. `toJson`
lists the fields in the order of the assignments; the reads name the C++ type of
each default, so `value("seq", 0)` is a read through `get<int>`.
-/
namespace PnC.Source

/-- PC_VERSION -/
def pcVersion : String := "0.6"

/-- json::dump and json::parse, which the library supplies. -/
structure JsonText where
  dump : Json → String
  parse : String → Except Exception Json

structure WorkUnitMessage where
  testType : String
  sourceFile : String
  permutation : String
  permutationSeed : Option Int
  workUnitId : String
  seq : Int
  timestamp : String
  producerId : String
  job : Json
  sourceHash : Option String

def WorkUnitMessage.toJson (m : WorkUnitMessage) : Json :=
  .object <|
    [("msg_type", .string "work_unit"), ("test_type", .string m.testType),
      ("source_file", .string m.sourceFile), ("permutation", .string m.permutation)] ++
    (m.permutationSeed.map fun seed => ("permutation_seed", .numberInteger seed)).toList ++
    [("work_unit_id", .string m.workUnitId), ("seq", .numberInteger m.seq),
      ("timestamp", .string m.timestamp), ("producer_id", .string m.producerId),
      ("job", m.job)] ++
    (m.sourceHash.map fun hash => ("source_hash", .string hash)).toList

def WorkUnitMessage.fromJson (j : Json) : Except Exception WorkUnitMessage := do
  let testType ← j.value "test_type" "" Json.getString
  let sourceFile ← j.value "source_file" "" Json.getString
  let permutation ← j.value "permutation" "" Json.getString
  let permutationSeed ← j.optional "permutation_seed" Json.getInt64
  let workUnitId ← j.value "work_unit_id" "" Json.getString
  let seq ← j.value "seq" 0 Json.getInt
  let timestamp ← j.value "timestamp" "" Json.getString
  let producerId ← j.value "producer_id" "" Json.getString
  let job ← j.value "job" (.object []) Json.getJson
  let sourceHash ← j.optional "source_hash" Json.getString
  return { testType, sourceFile, permutation, permutationSeed, workUnitId, seq, timestamp,
           producerId, job, sourceHash }

structure ResultMessage where
  workUnitId : String
  seq : Int
  consumerId : String
  status : String
  result : Json
  timestamp : String
  foundPassword : Option String
  fileError : Option String

def ResultMessage.toJson (m : ResultMessage) : Json :=
  .object <|
    [("msg_type", .string "result"), ("work_unit_id", .string m.workUnitId),
      ("seq", .numberInteger m.seq), ("consumer_id", .string m.consumerId),
      ("status", .string m.status), ("result", m.result), ("timestamp", .string m.timestamp)] ++
    (m.foundPassword.map fun password => ("found_password", .string password)).toList ++
    (m.fileError.map fun error => ("file_error", .string error)).toList

def ResultMessage.fromJson (j : Json) : Except Exception ResultMessage := do
  let workUnitId ← j.value "work_unit_id" "" Json.getString
  let seq ← j.value "seq" 0 Json.getInt
  let consumerId ← j.value "consumer_id" "" Json.getString
  let status ← j.value "status" "" Json.getString
  let result ← j.value "result" (.object []) Json.getJson
  let timestamp ← j.value "timestamp" "" Json.getString
  let foundPassword ← j.optional "found_password" Json.getString
  let fileError ← j.optional "file_error" Json.getString
  return { workUnitId, seq, consumerId, status, result, timestamp, foundPassword, fileError }

structure WorkRequestMessage where
  consumerId : String
  threadsAvailable : Int
  timestamp : String

def WorkRequestMessage.toJson (m : WorkRequestMessage) : Json :=
  .object [("msg_type", .string "work_request"), ("consumer_id", .string m.consumerId),
    ("threads_available", .numberInteger m.threadsAvailable), ("timestamp", .string m.timestamp)]

def WorkRequestMessage.fromJson (j : Json) : Except Exception WorkRequestMessage := do
  let consumerId ← j.value "consumer_id" "" Json.getString
  let threadsAvailable ← j.value "threads_available" 0 Json.getInt
  let timestamp ← j.value "timestamp" "" Json.getString
  return { consumerId, threadsAvailable, timestamp }

structure HeartbeatMessage where
  consumerId : String
  timestamp : String

def HeartbeatMessage.toJson (m : HeartbeatMessage) : Json :=
  .object [("msg_type", .string "heartbeat"), ("consumer_id", .string m.consumerId),
    ("timestamp", .string m.timestamp)]

def HeartbeatMessage.fromJson (j : Json) : Except Exception HeartbeatMessage := do
  let consumerId ← j.value "consumer_id" "" Json.getString
  let timestamp ← j.value "timestamp" "" Json.getString
  return { consumerId, timestamp }

structure VersionMessage where
  version : String
  consumerId : String

def VersionMessage.toJson (m : VersionMessage) : Json :=
  .object [("msg_type", .string "version"), ("version", .string m.version),
    ("consumer_id", .string m.consumerId)]

def VersionMessage.fromJson (j : Json) : Except Exception VersionMessage := do
  let version ← j.value "version" "" Json.getString
  let consumerId ← j.value "consumer_id" "" Json.getString
  return { version, consumerId }

/-! ## from_json after to_json: numbers go through the type they are read with -/

theorem WorkUnitMessage.fromJson_toJson (m : WorkUnitMessage) :
    WorkUnitMessage.fromJson m.toJson =
      .ok { m with seq := toInt32 m.seq, permutationSeed := m.permutationSeed.map toInt64 } := by
  obtain ⟨_, _, _, seed, _, _, _, _, _, hash⟩ := m
  cases seed <;> cases hash <;> rfl

theorem ResultMessage.fromJson_toJson (m : ResultMessage) :
    ResultMessage.fromJson m.toJson = .ok { m with seq := toInt32 m.seq } := by
  obtain ⟨_, _, _, _, _, _, found, error⟩ := m
  cases found <;> cases error <;> rfl

theorem WorkRequestMessage.fromJson_toJson (m : WorkRequestMessage) :
    WorkRequestMessage.fromJson m.toJson =
      .ok { m with threadsAvailable := toInt32 m.threadsAvailable } := rfl

theorem HeartbeatMessage.fromJson_toJson (m : HeartbeatMessage) :
    HeartbeatMessage.fromJson m.toJson = .ok m := rfl

theorem VersionMessage.fromJson_toJson (m : VersionMessage) :
    VersionMessage.fromJson m.toJson = .ok m := rfl

/-! ## to_string and from_string -/

def WorkUnitMessage.toString (text : JsonText) (m : WorkUnitMessage) : String := text.dump m.toJson

def WorkUnitMessage.fromString (text : JsonText) (s : String) : Except Exception WorkUnitMessage :=
  text.parse s >>= WorkUnitMessage.fromJson

def ResultMessage.toString (text : JsonText) (m : ResultMessage) : String := text.dump m.toJson

def ResultMessage.fromString (text : JsonText) (s : String) : Except Exception ResultMessage :=
  text.parse s >>= ResultMessage.fromJson

def WorkRequestMessage.toString (text : JsonText) (m : WorkRequestMessage) : String :=
  text.dump m.toJson

def WorkRequestMessage.fromString (text : JsonText) (s : String) :
    Except Exception WorkRequestMessage :=
  text.parse s >>= WorkRequestMessage.fromJson

def HeartbeatMessage.toString (text : JsonText) (m : HeartbeatMessage) : String :=
  text.dump m.toJson

def HeartbeatMessage.fromString (text : JsonText) (s : String) :
    Except Exception HeartbeatMessage :=
  text.parse s >>= HeartbeatMessage.fromJson

def VersionMessage.toString (text : JsonText) (m : VersionMessage) : String := text.dump m.toJson

def VersionMessage.fromString (text : JsonText) (s : String) : Except Exception VersionMessage :=
  text.parse s >>= VersionMessage.fromJson

end PnC.Source
