import PnC.Source.FileTransfer

/-!
# The request for a file

The consumer sends its request in a loop; the producer reads it with one recv_data into a
zeroed buffer of 4096 bytes, whatever has arrived by then, and scans for the end of the name.
-/
namespace PnC.Guarantees.FileRequests

open PnC.Library PnC.Source

/-- What handle_file_transfer answers to a request for the name. -/
def answer (job : JobFiles) (fs : FileSystem) (splits : Splits) (filename : Path) : FileAnswer :=
  match job.resolve fs filename with
  | .error _ => ⟨none, []⟩
  | .ok none => ⟨none, splits.sendSize 0⟩
  | .ok (some path) => sendFile fs splits path

/-- The name that is looked up for the request is the name that was sent, so the answer is
the one for it, whatever the producer's files are. -/
def ResolvesName (splits : Splits) (filename : Path) : Prop :=
  requestedName (splits.received (fileRequest filename)) = .ok filename ∧
    ∀ job fs json additionalFiles,
      handleFileTransfer job fs json additionalFiles splits
          (splits.received (fileRequest filename)) =
        .ok (answer job fs splits filename)

/-- The name has no zero byte, the one recv_data returned all of its bytes, and the buffer has
room for a zero behind them. -/
structure ArrivesWhole (splits : Splits) (filename : Path) : Prop where
  text : 0 ∉ filename
  arrived : filename.length + 1 ≤ moved splits.request (min (fileRequest filename).length 4096)
  room : filename.length < 4095

/-- The name that is extracted from what recv_data returned consists of bytes that were
received; for another request than a download no name is extracted. -/
def UsesReceived (received : List UInt8) : Prop :=
  received.head? = some 1 →
    ∃ name, requestedName received = .ok name ∧ name <+: received.drop 1

/-- A request for a download that fills the buffer without a zero in it. -/
def FullWithoutEnd (received : List UInt8) : Prop :=
  received.length = 4096 ∧ received.head? = some 1 ∧ 0 ∉ received

theorem handle_download (job : JobFiles) (fs : FileSystem) (json : JsonText)
    (additionalFiles : List AdditionalFile) (splits : Splits) {text : List UInt8} {name : Path}
    (named : requestedName (1 :: text) = .ok name) :
    handleFileTransfer job fs json additionalFiles splits (1 :: text) =
      .ok (answer job fs splits name) := by
  unfold handleFileTransfer answer
  dsimp only
  rw [if_neg (by decide), if_neg (by decide), named]
  dsimp only
  cases job.resolve fs name with
  | error what => rfl
  | ok found => cases found <;> rfl

theorem resolvesName_iff (splits : Splits) (filename : Path) :
    ResolvesName splits filename ↔ ArrivesWhole splits filename := by
  constructor
  · intro resolves
    obtain ⟨text, arrived, room⟩ := (requestedName_fileRequest_iff splits filename).mp resolves.1
    exact ⟨text, arrived, room⟩
  · intro whole
    have named := (requestedName_fileRequest_iff splits filename).mpr
      ⟨whole.text, whole.arrived, whole.room⟩
    refine ⟨named, fun job fs json additionalFiles => ?_⟩
    obtain ⟨rest, received⟩ := received_fileRequest splits filename
    rw [received] at named ⊢
    exact handle_download job fs json additionalFiles splits named

theorem length_received (splits : Splits) (sent : List UInt8) :
    (splits.received sent).length ≤ 4096 := by
  have most := moved_le splits.request (min sent.length 4096)
  rw [Splits.received, List.length_take]
  omega

theorem usesReceived_iff {received : List UInt8} (within : received.length ≤ 4096) :
    UsesReceived received ↔ ¬ FullWithoutEnd received := by
  cases received with
  | nil => simp [UsesReceived, FullWithoutEnd]
  | cons code text =>
    rw [List.length_cons] at within
    unfold UsesReceived FullWithoutEnd
    rw [requestedName_cons code (by omega)]
    constructor
    · intro uses full
      obtain ⟨length, download, none⟩ := full
      obtain ⟨name, named, -⟩ := uses download
      rw [List.length_cons] at length
      rw [if_pos ⟨by omega, fun member => none (List.mem_cons_of_mem _ member)⟩] at named
      cases named
    · intro ended download
      have fits : ¬ (text.length = 4095 ∧ 0 ∉ text) := by
        intro full
        apply ended
        refine ⟨by rw [List.length_cons, full.1], download, ?_⟩
        rw [Option.some.inj download]
        simpa using full.2
      exact ⟨_, if_neg fits, List.takeWhile_prefix _⟩

/-- A request leads to the file name that was sent exactly when the name arrived whole in the
one recv_data; and what is extracted from any received bytes was received exactly when the
buffer is not full without a zero. -/
theorem request_parsed_iff (splits : Splits) (filename : Path) (sent : List UInt8) :
    (ResolvesName splits filename ↔ ArrivesWhole splits filename) ∧
    (UsesReceived (splits.received sent) ↔ ¬ FullWithoutEnd (splits.received sent)) :=
  ⟨resolvesName_iff splits filename, usesReceived_iff (length_received splits sent)⟩

/-- The first recv_data returns the code and one byte of the name. -/
def twoBytes : Splits := ⟨1, 3, fun _ => 65535, fun _ => 3, fun _ => 65535⟩

/-- recv_data returns as much as the buffer takes. -/
def wholeBuffer : Splits := ⟨4095, 3, fun _ => 65535, fun _ => 3, fun _ => 65535⟩

/-- The first two bytes of a request are taken for all of it, and a request that fills the
buffer is read past its end. -/
theorem split_request_misnamed :
    (¬ ∀ splits filename, ResolvesName splits filename) ∧
    ¬ ∀ (splits : Splits) (sent : List UInt8), UsesReceived (splits.received sent) := by
  constructor
  · intro claimed
    have whole := (resolvesName_iff _ _).mp (claimed twoBytes (Path.ofString "a.bin"))
    exact absurd whole.arrived (by decide)
  · intro claimed
    have length : (1 :: List.replicate 4095 (65 : UInt8)).length = 4096 := by
      rw [List.length_cons, List.length_replicate]
    have received : wholeBuffer.received (1 :: List.replicate 4095 65) =
        1 :: List.replicate 4095 65 := by
      rw [Splits.received, length]
      exact List.take_of_length_le (Nat.le_of_eq length)
    have uses := claimed wholeBuffer (1 :: List.replicate 4095 65)
    rw [received, usesReceived_iff (Nat.le_of_eq length)] at uses
    refine uses ⟨length, rfl, ?_⟩
    intro member
    obtain zero | filler := List.mem_cons.mp member
    · cases zero
    · cases List.eq_of_mem_replicate filler

end PnC.Guarantees.FileRequests
