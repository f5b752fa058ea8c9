import Mathlib.Data.List.TakeWhile
import PnC.Library.Segments
import PnC.Source.FileSystem
import PnC.Source.Message
import PnC.Source.SocketFrame

/-!
# The file transfer port

handle_file_transfer, what load_job_config and scan_additional_files compute for it, and
the loops with which a consumer reads its answers. A connection is the bytes that one side
sends; `Splits` is how the calls of one exchange split them.
-/
namespace PnC.Source

open PnC.Library

/-- What the producer's configuration says about files: config_.file_path and
source_file_. -/
structure JobFiles where
  filePath : Path
  sourceFile : Path

structure AdditionalFile where
  name : Path
  size : Nat
  sha256 : String
  deriving DecidableEq

namespace JobFiles

variable (job : JobFiles) (fs : FileSystem)

/-- config_dir in each of the three functions -/
def configDir : Path := job.filePath.parentPath

/-- load_job_config: the path that source_hash_ is computed from. -/
def hashPath : Except Exception (Option Path) := do
  if job.sourceFile = [] then return none
  if ← fs.pathExists job.sourceFile then return some job.sourceFile
  if ← fs.pathExists (job.configDir.append job.sourceFile) then
    return some (job.configDir.append job.sourceFile)
  return none

/-- load_job_config: source_hash_ -/
def sourceHash : Except Exception String := do
  match ← job.hashPath fs with
  | some path => return fs.sha256File path
  | none => return ""

/-- The loop body of scan_additional_files: nothing for what is no regular file and for
the config file. -/
def scanEntry (name : Path) : Except Exception (Option AdditionalFile) :=
  let path := job.configDir.append name
  let listed (size : Nat) : Option AdditionalFile :=
    if name = job.filePath.filename then none else some ⟨name, size, fs.sha256File path⟩
  match fs.status path with
  | some (.file content) => .ok (listed content.length)
  | some (.unreadable size) => .ok (listed size)
  | some .inaccessible => .error FileSystem.filesystemError
  | some (.directory ..) | none => .ok none

/-- The loop of scan_additional_files -/
def scanEntries : List Path → Except Exception (List AdditionalFile)
  | [] => .ok []
  | name :: rest => do
    let file ← job.scanEntry fs name
    return file.toList ++ (← scanEntries rest)

/-- scan_additional_files -/
def scanAdditionalFiles : Except Exception (List AdditionalFile) := do
  if ← fs.isDirectory job.configDir then job.scanEntries fs (fs.directoryEntries job.configDir)
  else return []

/-- handle_file_transfer: where the requested name leads, and none when it is not found. -/
def resolve (filename : Path) : Except Exception (Option Path) := do
  if ← fs.pathExists filename then return some (fs.locate filename)
  if ← fs.pathExists (job.configDir.append filename) then
    return some (fs.locate (job.configDir.append filename))
  if job.sourceFile ≠ [] then
    if ← fs.pathExists job.sourceFile then
      if job.sourceFile.filename = filename then return some (fs.locate job.sourceFile)
  if ← fs.pathExists job.filePath then
    if job.filePath.filename = filename then return some (fs.locate job.filePath)
  return none

/-- What the four branches of handle_file_transfer have found. -/
inductive Resolved (filename : Path) : Path → Prop
  | here (present : fs.pathExists filename = .ok true) : Resolved filename (fs.locate filename)
  | configDir (absent : fs.pathExists filename = .ok false)
      (present : fs.pathExists (job.configDir.append filename) = .ok true) :
      Resolved filename (fs.locate (job.configDir.append filename))
  | sourceFile (given : job.sourceFile ≠ []) (present : fs.pathExists job.sourceFile = .ok true)
      (base : job.sourceFile.filename = filename) : Resolved filename (fs.locate job.sourceFile)
  | filePath (present : fs.pathExists job.filePath = .ok true)
      (base : job.filePath.filename = filename) : Resolved filename (fs.locate job.filePath)

variable {job fs} {filename path : Path}

/-- The guard of a branch. -/
theorem branch {guard : Except Exception Bool} {first second : Except Exception (Option Path)}
    {result : Option Path}
    (found : (do if ← guard then first else second) = .ok result) :
    guard = .ok true ∧ first = .ok result ∨ guard = .ok false ∧ second = .ok result := by
  cases guard with
  | error what => cases found
  | ok present =>
    cases present with
    | true => exact .inl ⟨rfl, found⟩
    | false => exact .inr ⟨rfl, found⟩

/-- The last branch. -/
theorem resolved_filePath
    (found : (do
      if ← fs.pathExists job.filePath then
        if job.filePath.filename = filename then return some (fs.locate job.filePath)
      return none) = Except.ok (some path)) : job.Resolved fs filename path := by
  rcases branch found with ⟨present, found⟩ | ⟨-, found⟩
  · split at found
    next base =>
      cases found
      exact .filePath present base
    next => cases found
  · cases found

theorem resolved (found : job.resolve fs filename = .ok (some path)) :
    job.Resolved fs filename path := by
  unfold resolve at found
  dsimp only at found
  rcases branch found with ⟨present, found⟩ | ⟨absent, found⟩
  · cases found
    exact .here present
  rcases branch found with ⟨present, found⟩ | ⟨-, found⟩
  · cases found
    exact .configDir absent present
  split at found
  next given =>
    rcases branch found with ⟨present, found⟩ | ⟨-, found⟩
    · split at found
      next base =>
        cases found
        exact .sourceFile given present base
      next => exact resolved_filePath found
    · exact resolved_filePath found
  next => exact resolved_filePath found
end JobFiles

/-! ## One exchange on the port -/

/-- How the calls of an exchange split what they move: the producer's one recv_data, its
one send_data of the size and those of the contents, and the consumer's recv_data calls
for the size and for the contents. -/
structure Splits where
  request : Nat
  size : Nat
  payload : Nat → Nat
  header : Nat → Nat
  contents : Nat → Nat

/-- The request for a file -/
def fileRequest (filename : Path) : List UInt8 := 1 :: filename ++ [0]

/-- What the producer's recv_data finds in the request's bytes. -/
def Splits.received (splits : Splits) (request : List UInt8) : List UInt8 :=
  request.take (moved splits.request (min request.length 4096))

/-- The file name in request_buf; the scan for its end leaves a buffer without a zero. -/
def requestedName (received : List UInt8) : Except Fault Path :=
  let text := (received ++ List.replicate (4096 - received.length) 0).drop 1
  if 0 ∈ text then .ok (text.takeWhile (· ≠ 0)) else .error .outOfBounds

/-- The size: one send_data of four bytes, whose count is not looked at. -/
def Splits.sendSize (splits : Splits) (size : UInt32) : List UInt8 :=
  (netLen size).take (moved splits.size 4)

/-- The size, cast to uint32_t, and the loop that sends the payload. -/
def Splits.sendPayload (splits : Splits) (payload : List UInt8) : List UInt8 :=
  splits.sendSize (UInt32.ofNat payload.length) ++ sendAll splits.payload 0 payload

/-- nlohmann::json throws on a name that is not UTF-8. -/
def AdditionalFile.toJson (file : AdditionalFile) : Except Exception Json :=
  match String.fromUTF8? ⟨file.name.toArray⟩ with
  | some name =>
    .ok (.object [("name", .string name), ("size", .numberInteger file.size),
      ("sha256", .string file.sha256)])
  | none => .error (.typeError 316)

/-- What a call of handle_file_transfer opened and what it sent. -/
structure FileAnswer where
  opened : Option Path
  sent : List UInt8

/-- handle_file_transfer from the ifstream on: what cannot be opened is answered like what
is not found, and no vector has the size of a directory. -/
def sendFile (fs : FileSystem) (splits : Splits) (path : Path) : FileAnswer :=
  match fs.node path with
  | some (.file content) => ⟨some path, splits.sendPayload content⟩
  | some (.directory _ true) => ⟨some path, []⟩
  | some (.directory _ false) | some (.unreadable _) | some .inaccessible | none =>
    ⟨none, splits.sendSize 0⟩

/-- handle_file_transfer; what it throws it also catches. -/
def handleFileTransfer (job : JobFiles) (fs : FileSystem) (json : JsonText)
    (additionalFiles : List AdditionalFile) (splits : Splits) (received : List UInt8) :
    Except Fault FileAnswer :=
  match received with
  | [] => .ok ⟨none, []⟩
  | code :: _ =>
    if code = 2 then
      match additionalFiles.mapM AdditionalFile.toJson with
      | .error _ => .ok ⟨none, []⟩
      | .ok manifest =>
        .ok ⟨none, splits.sendPayload (json.dump (.array manifest)).toUTF8.data.toList⟩
    else if code ≠ 1 then .ok ⟨none, []⟩
    else
      match requestedName received with
      | .error fault => .error fault
      | .ok filename =>
        match job.resolve fs filename with
        | .error _ => .ok ⟨none, []⟩
        | .ok none => .ok ⟨none, splits.sendSize 0⟩
        | .ok (some path) => .ok (sendFile fs splits path)

/-- How the loops that read a size and a payload end. -/
inductive Received where
  | contents (bytes : List UInt8)
  | empty
  | closed
  deriving DecidableEq

/-- The loops that read a size and what it announces, in download_source_file and twice in
download_additional_files, on all that the producer sends. -/
def Splits.receive (splits : Splits) (stream : List UInt8) : Received :=
  match readAll splits.header 0 4 stream with
  | some ([b0, b1, b2, b3], rest) =>
    let size := ntohl b0 b1 b2 b3
    if size = 0 then .empty
    else
      match readAll splits.contents 0 size.toNat rest with
      | some (bytes, _) => .contents bytes
      | none => .closed
  | _ => .closed

/-- The loops read a frame, however the stream is split. -/
theorem receive_eq (splits : Splits) (stream : List UInt8) :
    splits.receive stream =
      match recvFrame stream with
      | none => .closed
      | some ([], _) => .empty
      | some (bytes, _) => .contents bytes := by
  unfold Splits.receive recvFrame
  rw [readAll_eq]
  match stream with
  | [] | [_] | [_, _] | [_, _, _] => rfl
  | b0 :: b1 :: b2 :: b3 :: rest =>
    rw [if_pos (by simp)]
    simp only [List.take_succ_cons, List.take_zero, List.drop_succ_cons, List.drop_zero]
    rw [readAll_eq]
    generalize ntohl b0 b1 b2 b3 = size
    by_cases none : size = 0
    · subst none
      rfl
    · have announced : size.toNat ≠ 0 := fun zero => none (UInt32.toNat_inj.mp zero)
      rw [if_neg none]
      by_cases enough : size.toNat ≤ rest.length
      · rw [if_pos enough, if_neg (by omega)]
        cases taken : rest.take size.toNat with
        | nil =>
          have length := congrArg List.length taken
          rw [List.length_take, Nat.min_eq_left enough] at length
          exact absurd length announced
        | cons byte bytes => rfl
      · rw [if_neg enough, if_pos (by omega)]

/-- A payload that is not empty comes back, whatever follows it. -/
theorem receive_frame (splits : Splits) {bytes : List UInt8} (nonempty : 0 < bytes.length)
    (short : bytes.length < 2 ^ 32) (rest : List UInt8) :
    splits.receive (frame bytes ++ rest) = .contents bytes := by
  rw [receive_eq, recvFrame_frame bytes rest short]
  split
  next absent => cases absent
  next empty =>
    cases empty
    cases nonempty
  next read =>
    cases read
    rfl

/-- The received request begins with the code of a download. -/
theorem received_fileRequest (splits : Splits) (filename : Path) :
    ∃ rest, splits.received (fileRequest filename) = 1 :: rest := by
  have offered : 0 < min (fileRequest filename).length 4096 := by
    simp only [fileRequest, List.cons_append, List.length_cons]
    omega
  have progress := moved_pos splits.request _ offered
  obtain ⟨n, count⟩ := Nat.exists_eq_succ_of_ne_zero (Nat.ne_of_gt progress)
  refine ⟨(filename ++ [0]).take n, ?_⟩
  rw [Splits.received, count]
  rfl

/-- The scan for the end of the name leaves a full buffer without a zero; in any other it
ends with what was received. -/
theorem requestedName_cons (code : UInt8) {text : List UInt8} (within : text.length ≤ 4095) :
    requestedName (code :: text) =
      if text.length = 4095 ∧ 0 ∉ text then .error .outOfBounds
      else .ok (text.takeWhile (· ≠ 0)) := by
  have zeros : 4096 - (code :: text).length = 4095 - text.length := by
    rw [List.length_cons]
    omega
  have nothing : ∀ n, (List.replicate n (0 : UInt8)).takeWhile (· ≠ 0) = [] := by
    intro n
    cases n <;> simp [List.replicate_succ]
  have ended : (text ++ List.replicate (4095 - text.length) 0).takeWhile (· ≠ 0) =
      text.takeWhile (· ≠ 0) := by
    rw [List.takeWhile_append, nothing, List.append_nil]
    split
    next whole => exact ((List.takeWhile_prefix _).eq_of_length whole).symm
    next => rfl
  unfold requestedName
  rw [zeros, List.cons_append, List.drop_succ_cons, List.drop_zero]
  dsimp only
  rw [ended]
  by_cases full : text.length = 4095
  · simp [full]
  · have room : 4095 - text.length ≠ 0 := by omega
    simp [room, full]

/-- A request is received as far as its name exactly when the name has no zero, all its bytes
have arrived, and there is room behind them. -/
theorem requestedName_fileRequest_iff (splits : Splits) (filename : Path) :
    requestedName (splits.received (fileRequest filename)) = .ok filename ↔
      0 ∉ filename ∧
      filename.length + 1 ≤ moved splits.request (min (fileRequest filename).length 4096) ∧
      filename.length < 4095 := by
  have length : (fileRequest filename).length = filename.length + 2 := by simp [fileRequest]
  have offered : 0 < min (fileRequest filename).length 4096 := by omega
  have some := moved_pos splits.request _ offered
  have most := moved_le splits.request (min (fileRequest filename).length 4096)
  unfold Splits.received
  generalize moved splits.request (min (fileRequest filename).length 4096) = n at *
  obtain ⟨m, rfl⟩ := Nat.exists_eq_succ_of_ne_zero (Nat.ne_of_gt some)
  have taken : (fileRequest filename).take m.succ = 1 :: (filename ++ [0]).take m := rfl
  have count : ((filename ++ [0]).take m).length = m := by
    rw [List.length_take, List.length_append, List.length_singleton]
    omega
  have within : ((filename ++ [0]).take m).length ≤ 4095 := by omega
  rw [taken, requestedName_cons 1 within, count]
  constructor
  · intro named
    split at named
    next => cases named
    next ended =>
      have name := Except.ok.inj named
      have text : 0 ∉ filename := by
        intro member
        rw [← name] at member
        simpa using List.mem_takeWhile_imp member
      have fits : filename.length ≤ m := by
        have front : ((filename ++ [0]).take m).takeWhile (· ≠ 0) <+: (filename ++ [0]).take m :=
          List.takeWhile_prefix _
        rw [name] at front
        rw [← count]
        exact front.length_le
      refine ⟨text, Nat.succ_le_succ fits, ?_⟩
      -- a name that fills the buffer leaves no zero in it
      by_contra long
      have all : m = filename.length := by omega
      rw [all, List.take_left] at ended
      exact ended ⟨by omega, text⟩
  · intro arrived
    obtain ⟨text, arrived, room⟩ := arrived
    have front : (filename ++ [0]).take m =
        filename ++ ([0] : List UInt8).take (m - filename.length) := by
      rw [List.take_append, List.take_of_length_le (by omega)]
    have ends : ¬ (m = 4095 ∧ 0 ∉ (filename ++ [0]).take m) := by
      intro full
      obtain ⟨last, none⟩ := full
      have whole : (filename ++ [0]).length ≤ m := by
        rw [List.length_append, List.length_singleton]
        omega
      rw [List.take_of_length_le whole] at none
      simp at none
    rw [if_neg ends, front, List.takeWhile_append_of_pos (by
      intro b member
      exact decide_eq_true fun zero : b = 0 => text (zero ▸ member))]
    cases m - filename.length <;> simp

/-- No document is looked at; for runs on fixed inputs. -/
def noText : JsonText := ⟨fun _ => "[]", fun _ => .ok .null⟩

end PnC.Source
