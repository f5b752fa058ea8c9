import PnC.Library.Transition
import PnC.Source.FirstWorkUnit
import PnC.Source.SocketDescriptors
import PnC.Source.ThreadPool

/-!
# The receiver loop

receiver_loop of consumer.cpp. `readFrame` is what the loop body makes of a frame by
itself, `pass` goes on to the duplicate check or, before the pool is there, through the
download of the files. `receiverSystem` runs the loop on the frames of a connection that
works: every frame that the peer sends is an event, whether or not somebody is left to
receive it. The list `expected` is kept for statements.
-/
namespace PnC.Source

open PnC.Library

structure ReceiverConfig where
  transport : Transport
  json : JsonText
  fileDir : String
  isLocal : Bool
  host : String
  consumerId : String

namespace ReceiverConfig

variable (config : ReceiverConfig)

def files : ConsumerFiles := ⟨Path.ofString config.fileDir, config.isLocal, config.host⟩

/-- `config_.file_dir + "/" + fs::path(source_file).filename().string()` -/
def localFilePath (sourceFile : String) : String :=
  config.fileDir ++ "/" ++
    String.ofList (sourceFile.toList.reverse.takeWhile (· ≠ '/')).reverse

/-- json::parse of the bytes of a frame; bytes that are not UTF-8 are an error too. -/
def parseFrame (frame : List UInt8) : Except Exception Json :=
  match String.fromUTF8? ⟨frame.toArray⟩ with
  | none => .error (.runtimeError "parse_error")
  | some text => config.json.parse text

end ReceiverConfig

theorem parseFrame_ofString (config : ReceiverConfig) (text : String) :
    config.parseFrame (Path.ofString text) = config.json.parse text := by
  have bytes : String.fromUTF8? ⟨(Path.ofString text).toArray⟩ = some text := by
    change String.fromUTF8? text.toByteArray = some text
    rw [String.fromUTF8?, dif_pos text.isValidUTF8]
    rfl
  rw [ReceiverConfig.parseFrame, bytes]

/-- What the loop body makes of a frame before it looks at anything else. -/
inductive FrameContent where
  | skipped
  | discarded
  | threw (what : Exception)
  | unit (work : WorkUnitMessage)

/-- A datagram that recv_frame_udp rejects is an empty frame. -/
def readFrame (config : ReceiverConfig) (frame : List UInt8) : FrameContent :=
  if config.transport = .udp ∧ frame = [] then .skipped
  else
    match config.parseFrame frame with
    | .error what => .threw what
    | .ok j =>
      match j.value "msg_type" "" Json.getString with
      | .error what => .threw what
      | .ok msgType =>
        if msgType = "work_unit" then
          match WorkUnitMessage.fromJson j with
          | .error what => .threw what
          | .ok work =>
            if work.workUnitId = "" ∨ work.job.isEmpty then .discarded else .unit work
        else .skipped

/-- The members of Consumer that only the receiver thread writes. -/
structure Receiver where
  fileReady : Bool
  localFilePath : String
  firstSeq : Int
  lastSeq : Int
  totalReceived : Int
  totalDiscarded : Int

namespace Receiver

def new : Receiver := ⟨false, "", -1, -1, 0, 0⟩

def discard (r : Receiver) : Receiver := { r with totalDiscarded := r.totalDiscarded + 1 }

def count (r : Receiver) (work : WorkUnitMessage) : Receiver :=
  { r with
    firstSeq := if r.firstSeq < 0 then work.seq else r.firstSeq
    lastSeq := work.seq
    totalReceived := r.totalReceived + 1 }

/-- The handler works on the local copy of the source file. -/
def pointTo (r : Receiver) (work : WorkUnitMessage) : WorkUnitMessage :=
  { work with sourceFile := r.localFilePath }

/-- How far the loop body gets with a frame by itself. -/
inductive Pass where
  | continues
  /-- the outer catch, which leaves the loop -/
  | breaks (what : Exception)
  | exits (code : Nat)
  /-- the pool is started, and the unit goes into it unchecked -/
  | first (work : WorkUnitMessage)
  | check (work : WorkUnitMessage)

def pass (config : ReceiverConfig) (r : Receiver) (frame : List UInt8) (fs : FileSystem)
    (server : FileServer) : Receiver × Pass :=
  match readFrame config frame with
  | .skipped => (r, .continues)
  | .discarded => (r.discard, .continues)
  | .threw what => (r, .breaks what)
  | .unit work =>
    if r.fileReady then (r.count work, .check work)
    else
      let named := { r.count work with localFilePath := config.localFilePath work.sourceFile }
      match config.files.receiveFirst fs config.json server work with
      | .discarded => (r.discard, .continues)
      | .ended (.threw what) => (named, .breaks what)
      | .ended (.exit code) => (named, .exits code)
      | .started _ => ({ named with fileReady := true }, .first work)

/-- The pool is started by a unit that comes before the files are there. -/
theorem pass_fileReady {config : ReceiverConfig} {r after : Receiver} {frame : List UInt8}
    {fs : FileSystem} {server : FileServer} {reached : Receiver.Pass}
    (passed : r.pass config frame fs server = (after, reached)) :
    match reached with
    | .first _ => r.fileReady = false ∧ after.fileReady = true
    | .check _ => r.fileReady = true ∧ after.fileReady = true
    | _ => after.fileReady = r.fileReady := by
  unfold Receiver.pass at passed
  repeat' split at passed
  all_goals cases passed
  all_goals first | rfl | simp_all [Receiver.count]

/-- The answer to a unit whose id has been completed. -/
def duplicateNote (consumerId timestamp : String) (work : WorkUnitMessage) : ResultMessage where
  workUnitId := work.workUnitId
  seq := work.seq
  consumerId := consumerId
  status := "success"
  result := .object [("note", .string "duplicate, already processed")]
  timestamp := timestamp
  foundPassword := none
  fileError := none

end Receiver

/-- A frame that the peer sends, the files and the file server at that moment, and which
of the submitted units the pool has completed with success by then. -/
structure Arrival where
  frame : List UInt8
  fs : FileSystem
  server : FileServer
  completed : String → Bool
  timestamp : String

structure Reception where
  receiver : Receiver
  /-- the loop has been left -/
  ended : Bool
  /-- oldest first -/
  submitted : List WorkUnitMessage
  answered : List ResultMessage
  /-- the units that should have been submitted, as they came -/
  expected : List WorkUnitMessage

namespace Reception

def start : Reception := ⟨.new, false, [], [], []⟩

/-- is_completed: a unit of the id has been submitted, and processed with success. -/
def isCompleted (s : Reception) (a : Arrival) (id : String) : Bool :=
  (s.submitted.any fun work => work.workUnitId = id) && a.completed id

end Reception

/-- A well-formed work unit: a document of that type with fields of the right types, an id
and a job with something in it, which is an object. -/
def wellFormed (config : ReceiverConfig) (frame : List UInt8) : Option WorkUnitMessage :=
  match config.parseFrame frame with
  | .error _ => none
  | .ok j =>
    match j.value "msg_type" "" Json.getString, WorkUnitMessage.fromJson j with
    | .ok msgType, .ok work =>
      if msgType = "work_unit" ∧ work.workUnitId ≠ "" ∧ !work.job.isEmpty ∧ work.job.isObject
      then some work else none
    | _, _ => none

/-- The unit of a well-formed frame that is no duplicate. -/
def Reception.wanted (config : ReceiverConfig) (s : Reception) (a : Arrival) :
    Option WorkUnitMessage :=
  (wellFormed config a.frame).filter fun work => !s.isCompleted a work.workUnitId

/-- The receiver loop on the frames of a connection; an exit ends the run. -/
def receiverSystem (config : ReceiverConfig) : TransitionSystem Reception Arrival where
  step s a :=
    let s' := { s with expected := s.expected ++ (s.wanted config a).toList }
    if s.ended then some s'
    else
      match s.receiver.pass config a.frame a.fs a.server with
      | (r, .continues) => some { s' with receiver := r }
      | (r, .breaks _) => some { s' with receiver := r, ended := true }
      | (_, .exits _) => none
      | (r, .first work) =>
        some { s' with receiver := r, submitted := s.submitted ++ [r.pointTo work] }
      | (r, .check work) =>
        if s.isCompleted a work.workUnitId then
          some { s' with
            receiver := r
            answered := s.answered ++
              [Receiver.duplicateNote config.consumerId a.timestamp work] }
        else some { s' with receiver := r, submitted := s.submitted ++ [r.pointTo work] }

/-! ## The frame of one unit, for runs on fixed inputs -/

/-- The text of a unit. -/
def unitText : String :=
  "\x7b\"job\":\x7b\"payload\":\"\"\x7d,\"msg_type\":\"work_unit\"," ++
    "\"permutation\":\"sequential\",\"producer_id\":\"prod-1\",\"seq\":0," ++
    "\"source_file\":\"/data/source.bin\",\"test_type\":\"ECHO\",\"timestamp\":\"\"," ++
    "\"work_unit_id\":\"u-1\"\x7d"

/-- parse on this one document; every other text is refused. -/
def unitJson : JsonText where
  dump _ := unitText
  parse text :=
    if text = unitText then .ok (WorkUnitMessage.named "u-1").toJson
    else .error (.runtimeError "parse_error")

/-- A consumer next to the producer's files. -/
def localReceiver : ReceiverConfig := ⟨.tcp, unitJson, "/data", true, "127.0.0.1", "cons-1"⟩

/-- Every path leads to a file. -/
def sharedFiles : FileSystem := ⟨id, fun _ => some (.file []), fun _ => true⟩

/-- No file server answers. -/
def noServer : FileServer := ⟨none, none, fun _ => none⟩

/-- The receiver behind its first unit. -/
def readyReceiver : Receiver := ⟨true, "/data/source.bin", 0, 0, 1, 0⟩

theorem parse_localReceiver (text : String) :
    localReceiver.json.parse text =
      if text = unitText then .ok (WorkUnitMessage.named "u-1").toJson
      else .error (.runtimeError "parse_error") := rfl

theorem parse_other {text : String} (other : text ≠ unitText) :
    localReceiver.json.parse text = .error (.runtimeError "parse_error") :=
  (parse_localReceiver text).trans (if_neg other)

theorem readFrame_unitText :
    readFrame localReceiver (Path.ofString unitText) = .unit (.named "u-1") := by
  rw [readFrame, if_neg (by simp [localReceiver]), parseFrame_ofString, parse_localReceiver,
    if_pos rfl]
  rfl

theorem pass_unitText_first :
    Receiver.new.pass localReceiver (Path.ofString unitText) sharedFiles noServer =
      (readyReceiver, .first (.named "u-1")) := by
  rw [Receiver.pass, readFrame_unitText]
  rfl

theorem pass_unitText_ready :
    readyReceiver.pass localReceiver (Path.ofString unitText) sharedFiles noServer =
      (readyReceiver.count (.named "u-1"), .check (.named "u-1")) := by
  rw [Receiver.pass, readFrame_unitText]
  rfl

end PnC.Source
