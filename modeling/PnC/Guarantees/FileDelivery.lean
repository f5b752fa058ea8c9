import PnC.Source.FileTransfer

/-!
# Delivery of files

The size of a file is sent as a uint32_t, and zero stands for a file that is not there.
The body is sent and read in loops; the request is read with one recv_data and the size
sent with one send_data.
-/
namespace PnC.Guarantees.FileDelivery

open PnC.Library PnC.Source

/-- A consumer asks for a name: what handle_file_transfer opens and sends for it. -/
def exchange (job : JobFiles) (fs : FileSystem) (json : JsonText)
    (additionalFiles : List AdditionalFile) (splits : Splits) (filename : Path) :
    Except Fault FileAnswer :=
  handleFileTransfer job fs json additionalFiles splits (splits.received (fileRequest filename))

/-- The file that the name leads to is opened, and its content read by the consumer. -/
def Delivers (job : JobFiles) (fs : FileSystem) (json : JsonText)
    (additionalFiles : List AdditionalFile) (splits : Splits) (filename path : Path)
    (content : List UInt8) : Prop :=
  ∃ answer, exchange job fs json additionalFiles splits filename = .ok answer ∧
    answer.opened = some path ∧ splits.receive answer.sent = .contents content

/-- What the producer's recv_data returned of the request leads to the same file, its
send_data took the whole size, and the length is not zero and in the range of uint32_t. -/
structure Deliverable (job : JobFiles) (fs : FileSystem) (splits : Splits) (filename path : Path)
    (content : List UInt8) : Prop where
  named : ∃ seen, requestedName (splits.received (fileRequest filename)) = .ok seen ∧
    job.resolve fs seen = .ok (some path)
  size : moved splits.size 4 = 4
  nonempty : 0 < content.length
  short : content.length < 2 ^ 32

theorem sendFile_of_file {fs : FileSystem} {path : Path} {content : List UInt8}
    (holds : fs.node path = some (.file content)) (splits : Splits) :
    sendFile fs splits path = ⟨some path, splits.sendPayload content⟩ := by
  unfold sendFile
  rw [holds]

theorem opened_sendFile {fs : FileSystem} {splits : Splits} {path opened : Path}
    (opens : (sendFile fs splits path).opened = some opened) : path = opened := by
  unfold sendFile at opens
  split at opens <;> cases opens <;> rfl

/-- The file is opened exactly when what was received of the request leads to it, and its
content is sent then. -/
theorem exchange_opens_iff (job : JobFiles) {fs : FileSystem} (json : JsonText)
    (additionalFiles : List AdditionalFile) (splits : Splits) (filename : Path) {path : Path}
    {content : List UInt8} (holds : fs.node path = some (.file content)) (answer : FileAnswer) :
    exchange job fs json additionalFiles splits filename = .ok answer ∧
        answer.opened = some path ↔
      (∃ seen, requestedName (splits.received (fileRequest filename)) = .ok seen ∧
        job.resolve fs seen = .ok (some path)) ∧
      answer = ⟨some path, splits.sendPayload content⟩ := by
  obtain ⟨rest, received⟩ := received_fileRequest splits filename
  unfold exchange handleFileTransfer
  rw [received]
  dsimp only
  rw [if_neg (by decide), if_neg (by decide)]
  constructor
  · intro exchanged
    obtain ⟨answered, opens⟩ := exchanged
    split at answered
    next => cases answered
    next seen named =>
      split at answered
      next =>
        cases answered
        cases opens
      next =>
        cases answered
        cases opens
      next found resolved =>
        cases answered
        cases opened_sendFile opens
        exact ⟨⟨seen, named, resolved⟩, sendFile_of_file holds splits⟩
  · rintro ⟨⟨seen, named, resolved⟩, rfl⟩
    rw [named]
    dsimp only
    rw [resolved]
    dsimp only
    rw [sendFile_of_file holds]
    exact ⟨rfl, rfl⟩

/-- The loops read back a payload that they are sent exactly when its size went out whole,
is not zero and is in the range of uint32_t. -/
theorem receive_sendPayload_iff (splits : Splits) (content : List UInt8) :
    splits.receive (splits.sendPayload content) = .contents content ↔
      moved splits.size 4 = 4 ∧ 0 < content.length ∧ content.length < 2 ^ 32 := by
  unfold Splits.sendPayload Splits.sendSize
  rw [sendAll_eq]
  constructor
  · intro read
    rw [receive_eq] at read
    split at read
    next => cases read
    next => cases read
    next bytes rest nonempty received =>
      cases read
      obtain ⟨lengths, short⟩ := recvFrame_length received
      have most := moved_le splits.size 4
      rw [List.length_append, List.length_take, length_netLen] at lengths
      exact ⟨by omega, List.length_pos_iff.mpr nonempty, short⟩
  · intro fits
    obtain ⟨size, nonempty, short⟩ := fits
    have whole := receive_frame splits nonempty short []
    rw [List.append_nil, frame] at whole
    rw [size, List.take_of_length_le (Nat.le_of_eq (length_netLen _)), whole]

/-- A file is delivered exactly when the request was received as far as its name, the size
went out whole, and the file is neither empty nor longer than uint32_t can say. -/
theorem delivered_iff (job : JobFiles) (fs : FileSystem) (json : JsonText)
    (additionalFiles : List AdditionalFile) (splits : Splits) (filename path : Path)
    (content : List UInt8) (holds : fs.node path = some (.file content)) :
    Delivers job fs json additionalFiles splits filename path content ↔
      Deliverable job fs splits filename path content := by
  have opening := exchange_opens_iff job json additionalFiles splits filename holds
  unfold Delivers
  constructor
  · intro delivers
    obtain ⟨answer, answered, opens, read⟩ := delivers
    obtain ⟨named, rfl⟩ := (opening answer).mp ⟨answered, opens⟩
    obtain ⟨size, nonempty, short⟩ := (receive_sendPayload_iff splits content).mp read
    exact ⟨named, size, nonempty, short⟩
  · intro deliverable
    obtain ⟨named, size, nonempty, short⟩ := deliverable
    obtain ⟨answered, opens⟩ := (opening _).mpr ⟨named, rfl⟩
    exact ⟨_, answered, opens,
      (receive_sendPayload_iff splits content).mpr ⟨size, nonempty, short⟩⟩

/-- A current directory with one file, and no job besides. -/
def oneFile (filename : Path) (content : List UInt8) : FileSystem where
  locate p := p
  node p := if p = filename then some (.file content) else none
  writable _ := false

/-- Every call moves all that it is offered. -/
def unsplit : Splits := ⟨4095, 3, fun _ => 65535, fun _ => 3, fun _ => 65535⟩

def emptyJob : JobFiles := ⟨Path.ofString "job.json", []⟩

theorem delivered_iff_three_bytes :
    Delivers emptyJob (oneFile (Path.ofString "a.bin") [1, 2, 3]) noText [] unsplit
      (Path.ofString "a.bin") (Path.ofString "a.bin") [1, 2, 3] := by
  have named := (requestedName_fileRequest_iff unsplit (Path.ofString "a.bin")).mpr
    ⟨by decide, by decide, by decide⟩
  exact (delivered_iff emptyJob (oneFile (Path.ofString "a.bin") [1, 2, 3]) noText [] unsplit
    (Path.ofString "a.bin") (Path.ofString "a.bin") [1, 2, 3] rfl).mpr
      ⟨⟨_, named, rfl⟩, rfl, by decide, by decide⟩

/-- An empty file is taken for one that is not there. -/
theorem empty_file_is_not_delivered :
    ¬ ∀ (job : JobFiles) (fs : FileSystem) (json : JsonText)
      (additionalFiles : List AdditionalFile) (splits : Splits) (filename path : Path)
      (content : List UInt8), job.resolve fs filename = .ok (some path) →
        fs.node path = some (.file content) →
          Delivers job fs json additionalFiles splits filename path content := by
  intro claimed
  obtain ⟨answer, answered, opens, read⟩ := claimed emptyJob
    (oneFile (Path.ofString "a.bin") []) noText [] unsplit (Path.ofString "a.bin")
    (Path.ofString "a.bin") [] rfl rfl
  obtain ⟨-, rfl⟩ := (exchange_opens_iff _ _ _ _ _ rfl answer).mp ⟨answered, opens⟩
  exact absurd ((receive_sendPayload_iff unsplit []).mp read).2.1 (Nat.lt_irrefl 0)

end PnC.Guarantees.FileDelivery
