import PnC.Source.FileHash

/-!
# Hashing a file and hashing its bytes

sha256_file and sha256_bytes give the same text, wherever the ends of the reads, of the
blocks and of the content fall.
-/
namespace PnC.Guarantees.FileHashing

open PnC.Source

/-- What the ifstream of sha256_file reads from; the first read from a directory fails. -/
def opened : Option Node → Option (List UInt8)
  | some (.file content) => some content
  | some (.directory ..) => some []
  | some (.unreadable _) | some .inaccessible | none => none

/-- The loops of sha256_file are what a file system answers with. -/
theorem sha256File_eq (fs : FileSystem) (p : Path) :
    fs.sha256File p = sha256FileOpened (opened (fs.status p)) := by
  have loops : ∀ content, sha256Stream content = sha256FileOpened (some content) := by
    intro content
    rw [sha256Stream_eq, sha256FileOpened, FileHash.hashFile_eq_hashBytes]
    rfl
  unfold FileSystem.sha256File
  cases fs.status p with
  | none => rfl
  | some node =>
    cases node with
    | file content => exact loops content
    | directory => exact loops []
    | unreadable | inaccessible => rfl

/-- Of a file with any content: both the loops of sha256_file on its stream and the call
on its path give the digest of its bytes. -/
theorem file_hash_agrees (fs : FileSystem) (p : Path) (content : List UInt8)
    (holds : fs.status p = some (.file content)) :
    sha256FileOpened (some content) = sha256Bytes content ∧
      fs.sha256File p = sha256Bytes content := by
  have agree : sha256FileOpened (some content) = sha256Bytes content := by
    rw [sha256FileOpened, FileHash.hashFile_eq_hashBytes]
    rfl
  refine ⟨agree, ?_⟩
  rw [sha256File_eq, holds]
  exact agree

/-- A file system with one file, longer than one read. -/
def oneFile : FileSystem where
  locate p := p
  node p := if p = [97] then some (.file (List.replicate 65537 0)) else none
  writable _ := false

theorem file_hash_agrees_past_one_read :
    sha256FileOpened (some (List.replicate 65537 0)) = sha256Bytes (List.replicate 65537 0) ∧
      oneFile.sha256File [97] = sha256Bytes (List.replicate 65537 0) :=
  file_hash_agrees oneFile [97] (List.replicate 65537 0) rfl

end PnC.Guarantees.FileHashing
