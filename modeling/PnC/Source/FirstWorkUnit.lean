import PnC.Source.FileTransfer

/-!
# The first work unit

What a consumer does between its first valid work unit and the start of its pool:
download_source_file and download_additional_files. What the file server answers is an
argument. A connection that is refused is none, and so is one that breaks while the request is
sent. For the manifest it is only the former: where that request cannot be sent the source
calls exit(3), as it does where the answer breaks off within its size.
-/
namespace PnC.Source

/-- All that the file server sends on a connection, and how the reads split it. -/
structure FileConnection where
  stream : List UInt8
  splits : Splits

/-- The answers to the request for the source file, to the one for the manifest and to
the ones for its entries, by their position. -/
structure FileServer where
  source : Option FileConnection
  manifest : Option FileConnection
  entry : Nat → Option FileConnection

/-- The part of ConsumerConfig that the downloads read. -/
structure ConsumerFiles where
  fileDir : Path
  isLocal : Bool
  host : String

/-- How the process or the receiver loop ends before the pool is started. -/
inductive Ended where
  | exit (code : Nat)
  | threw (what : Exception)
  deriving DecidableEq

/-- The size and the contents of a file, read from a connection. -/
def fetch : Option FileConnection → Received
  | some connection => connection.splits.receive connection.stream
  | none => .closed

/-- A download into the file at the path. -/
def saveFile (fs : FileSystem) (path : Path) (connection : Option FileConnection) :
    Except Ended FileSystem :=
  match fetch connection with
  | .empty | .closed => .error (.exit 3)
  | .contents bytes =>
    match fs.write path bytes with
    | none => .error (.exit 3)
    | some after => .ok after

/-- An element of the manifest; its size is read and not used. -/
structure ManifestEntry where
  name : Path
  sha256 : String
  size : Int

def ManifestEntry.fromJson (j : Json) : Except Exception ManifestEntry := do
  let name ← j.value "name" "" Json.getString
  let sha256 ← j.value "sha256" "" Json.getString
  let size ← j.value "size" 0 Json.getInt
  return { name := Path.ofString name, sha256, size }

namespace ConsumerFiles

variable (config : ConsumerFiles)

/-- `config_.file_dir + "/" + name` -/
def localPath (name : Path) : Path := config.fileDir ++ Path.separator :: name

/-- download_source_file -/
def downloadSourceFile (fs : FileSystem) (sourceFile : Path) (sourceHash : String)
    (connection : Option FileConnection) : Except Ended FileSystem :=
  let path := config.localPath sourceFile.filename
  match fs.pathExists path with
  | .error what => .error (.threw what)
  | .ok present =>
    if present ∧ (sourceHash = "" ∨ fs.sha256File path = sourceHash) then .ok fs
    else saveFile fs path connection

/-- The loop body of download_additional_files; what it throws ends in exit(3). -/
def downloadEntry (fs : FileSystem) (entry : ManifestEntry)
    (connection : Option FileConnection) : Except Ended FileSystem :=
  let path := config.localPath entry.name
  match fs.pathExists path with
  | .error _ => .error (.exit 3)
  | .ok present =>
    if present ∧ fs.sha256File path = entry.sha256 then .ok fs
    else
      match saveFile fs path connection with
      | .error ended => .error ended
      | .ok after =>
        if after.sha256File path = entry.sha256 then .ok after else .error (.exit 3)

/-- The loop of download_additional_files, from the `i`-th element on. -/
def downloadEntries (connections : Nat → Option FileConnection) :
    (i : Nat) → List Json → FileSystem → Except Ended FileSystem
  | _, [], fs => .ok fs
  | i, element :: rest, fs =>
    match ManifestEntry.fromJson element with
    | .error _ => .error (.exit 3)
    | .ok entry =>
      match config.downloadEntry fs entry (connections i) with
      | .error ended => .error ended
      | .ok after => downloadEntries connections (i + 1) rest after

/-- download_additional_files up to the loop: the elements of the manifest, none where it
returns before. -/
def manifestElements (json : JsonText) (connection : Option FileConnection) :
    Except Ended (List Json) :=
  if config.isLocal ∨ config.host = "127.0.0.1" then .ok []
  else
    match connection with
    | none => .ok []
    | some connection =>
      match connection.splits.receive connection.stream with
      | .closed => .error (.exit 3)
      | .empty => .ok []
      | .contents bytes =>
        match String.fromUTF8? ⟨bytes.toArray⟩ with
        | none => .error (.exit 3)
        | some text =>
          match json.parse text with
          | .error _ => .error (.exit 3)
          | .ok manifest => .ok (if manifest.isEmpty then [] else manifest.elements)

/-- download_additional_files -/
def downloadAdditionalFiles (fs : FileSystem) (json : JsonText) (server : FileServer) :
    Except Ended FileSystem :=
  match config.manifestElements json server.manifest with
  | .error ended => .error ended
  | .ok elements => config.downloadEntries server.entry 0 elements fs

/-- What becomes of a work unit that arrives while file_ready_ is false. -/
inductive FirstWorkUnit where
  | discarded
  | ended (how : Ended)
  /-- the pool is started, with the files as they are then -/
  | started (fs : FileSystem)

/-- The work_unit branch of receiver_loop, while file_ready_ is false. -/
def receiveFirst (fs : FileSystem) (json : JsonText) (server : FileServer)
    (work : WorkUnitMessage) : FirstWorkUnit :=
  if work.workUnitId = "" ∨ work.job.isEmpty then .discarded
  else
    match config.downloadSourceFile fs (Path.ofString work.sourceFile)
      (work.sourceHash.getD "") server.source with
    | .error ended => .ended ended
    | .ok saved =>
      match config.downloadAdditionalFiles saved json server with
      | .error ended => .ended ended
      | .ok after => .started after

/-! ### The code of an exit -/

section ExitCode

variable {config} {fs after : FileSystem} {json : JsonText} {code : Nat}

theorem saveFile_error {path : Path} {connection : Option FileConnection} {ended : Ended}
    (failed : saveFile fs path connection = .error ended) : ended = .exit 3 := by
  unfold saveFile at failed
  split at failed
  next => exact (Except.error.inj failed).symm
  next => exact (Except.error.inj failed).symm
  next =>
    split at failed
    next => exact (Except.error.inj failed).symm
    next => cases failed

theorem downloadSourceFile_exit {sourceFile : Path} {sourceHash : String}
    {connection : Option FileConnection}
    (failed : config.downloadSourceFile fs sourceFile sourceHash connection =
      .error (.exit code)) : code = 3 := by
  unfold downloadSourceFile at failed
  dsimp only at failed
  split at failed
  next => cases failed
  next =>
    split at failed
    next => cases failed
    next => exact Ended.exit.inj (saveFile_error failed)

theorem downloadEntry_error {entry : ManifestEntry} {connection : Option FileConnection}
    {ended : Ended} (failed : config.downloadEntry fs entry connection = .error ended) :
    ended = .exit 3 := by
  unfold downloadEntry at failed
  dsimp only at failed
  split at failed
  next => exact (Except.error.inj failed).symm
  next =>
    split at failed
    next => cases failed
    next =>
      split at failed
      next unsaved =>
        cases failed
        exact saveFile_error unsaved
      next =>
        split at failed
        next => cases failed
        next => exact (Except.error.inj failed).symm

theorem downloadEntries_error {connections : Nat → Option FileConnection} {i : Nat}
    {elements : List Json} {ended : Ended}
    (failed : config.downloadEntries connections i elements fs = .error ended) :
    ended = .exit 3 := by
  induction elements generalizing i fs with
  | nil => cases failed
  | cons element rest ih =>
    unfold downloadEntries at failed
    split at failed
    next => exact (Except.error.inj failed).symm
    next =>
      split at failed
      next broken =>
        cases failed
        exact downloadEntry_error broken
      next => exact ih failed

theorem manifestElements_error {connection : Option FileConnection} {ended : Ended}
    (failed : config.manifestElements json connection = .error ended) : ended = .exit 3 := by
  unfold manifestElements at failed
  repeat' split at failed
  all_goals first | exact (Except.error.inj failed).symm | cases failed

theorem downloadAdditionalFiles_error {server : FileServer} {ended : Ended}
    (failed : config.downloadAdditionalFiles fs json server = .error ended) :
    ended = .exit 3 := by
  unfold downloadAdditionalFiles at failed
  split at failed
  next unread =>
    cases failed
    exact manifestElements_error unread
  next => exact downloadEntries_error failed

/-- Whatever the downloads exit for, the code is 3. -/
theorem receiveFirst_exit {server : FileServer} {work : WorkUnitMessage}
    (ended : config.receiveFirst fs json server work = .ended (.exit code)) : code = 3 := by
  unfold receiveFirst at ended
  split at ended
  next => cases ended
  next =>
    split at ended
    next failed =>
      cases ended
      exact downloadSourceFile_exit failed
    next =>
      split at ended
      next failed =>
        cases ended
        exact Ended.exit.inj (downloadAdditionalFiles_error failed)
      next => cases ended

end ExitCode

end ConsumerFiles

end PnC.Source
