import PnC.Source.Json
import PnC.Source.Sha256

/-!
# Files

What std::filesystem and the file streams do with paths and files on POSIX. A path is
the bytes of its text. `locate` is where a path leads from the current directory, all
links followed, whether or not something is there; writing and creating files does not
change it.
-/
namespace PnC.Source

abbrev Path := List UInt8

namespace Path

def separator : UInt8 := 47

def ofString (text : String) : Path := text.toUTF8.data.toList

/-- filename(): what is behind the last separator -/
def filename (p : Path) : Path := (p.reverse.takeWhile (· ≠ separator)).reverse

/-- parent_path(): a path of separators alone is its own parent. -/
def parentPath (p : Path) : Path :=
  match ((p.reverse.dropWhile (· ≠ separator)).dropWhile (· = separator)).reverse with
  | [] => if p.head? = some separator then if p.all (· = separator) then p else [separator] else []
  | directory => directory

/-- operator/ : an absolute path replaces what it is appended to. -/
def append (p q : Path) : Path :=
  if q.head? = some separator then q
  else if p.filename = [] then p ++ q
  else p ++ separator :: q

end Path

inductive Node where
  | file (content : List UInt8)
  /-- a regular file that must not be read -/
  | unreadable (size : Nat)
  /-- `seekable` is whether lseek gives its end, which is then a number that is not the
  size of any vector -/
  | directory (entries : List Path) (seekable : Bool)
  /-- its status cannot be had -/
  | inaccessible
  deriving DecidableEq

structure FileSystem where
  locate : Path → Path
  node : Path → Option Node
  /-- whether a file may be opened for writing, or created -/
  writable : Path → Bool

/-- One call of the buffering loop for each buffer of 65536 bytes, and one for the last
partial read. -/
def Sha256Context.bufferReads {σ : Type} (transform : σ → Vector UInt8 64 → σ)
    (c : Sha256Context σ) (rest : List UInt8) : Sha256Context σ :=
  if rest.length < 65536 then c.bufferBytes transform rest
  else bufferReads transform (c.bufferBytes transform (rest.take 65536)) (rest.drop 65536)
termination_by rest.length
decreasing_by
  rw [List.length_drop]
  omega

/-- sha256_file behind the open, on what the stream gives. -/
def sha256Stream (content : List UInt8) : String :=
  printState
    (((Sha256Context.new initialState).bufferReads Sha256Impl.transform content).finish
      Sha256Impl.transform (UInt64.ofNat content.length * 8))

/-- The digest has its eight words of eight digits, at least. -/
theorem length_sha256Stream (content : List UInt8) : 64 ≤ (sha256Stream content).length := by
  have words (state : List UInt32) : 8 * state.length ≤ (state.flatMap printWord).length := by
    induction state with
    | nil => exact Nat.le_refl 0
    | cons word rest ih =>
      rw [List.flatMap_cons, List.length_append, List.length_cons]
      simp only [printWord, List.length_append, List.length_replicate]
      omega
  unfold sha256Stream printState
  generalize Sha256Context.finish _ _ _ = state
  have printed := words state.toList
  rw [Vector.length_toList] at printed
  rw [String.length_ofList]
  exact printed

theorem sha256Stream_ne_empty (content : List UInt8) : sha256Stream content ≠ "" := by
  intro empty
  have length := length_sha256Stream content
  rw [empty] at length
  cases length

namespace FileSystem

variable (fs : FileSystem)

/-- status() -/
def status (p : Path) : Option Node := fs.node (fs.locate p)

def filesystemError : Exception := .runtimeError "filesystem error"

/-- fs::exists -/
def pathExists (p : Path) : Except Exception Bool :=
  match fs.status p with
  | none => .ok false
  | some .inaccessible => .error filesystemError
  | some _ => .ok true

/-- fs::is_directory -/
def isDirectory (p : Path) : Except Exception Bool :=
  match fs.status p with
  | some (.directory ..) => .ok true
  | some .inaccessible => .error filesystemError
  | _ => .ok false

/-- fs::directory_iterator on a directory: its names. -/
def directoryEntries (p : Path) : List Path :=
  match fs.status p with
  | some (.directory entries _) => entries
  | _ => []

/-- sha256_file; the first read from a directory fails. -/
def sha256File (p : Path) : String :=
  match fs.status p with
  | some (.file content) => sha256Stream content
  | some (.directory ..) => sha256Stream []
  | some (.unreadable _) | some .inaccessible | none => ""

end FileSystem

def Node.isUnreadable : Node → Bool
  | .unreadable _ => true
  | .file _ | .directory .. | .inaccessible => false

/-- What an ofstream that truncates makes of what is at its path, when it opens. -/
def Node.overwritten (content : List UInt8) : Option Node → Option Node
  | none | some (.file _) => some (.file content)
  | some (.unreadable _) => some (.unreadable content.length)
  | some (.directory ..) | some .inaccessible => none

namespace FileSystem

/-- An ofstream that truncates, its write and its close; `none` when it does not open. -/
def write (fs : FileSystem) (p : Path) (content : List UInt8) : Option FileSystem :=
  if fs.writable (fs.locate p) then
    (Node.overwritten content (fs.status p)).map fun node =>
      { fs with node := fun q => if q = fs.locate p then some node else fs.node q }
  else none

variable {fs after : FileSystem} {p : Path} {content : List UInt8}

theorem write_eq (written : fs.write p content = some after) :
    ∃ node, Node.overwritten content (fs.status p) = some node ∧
      after = { fs with node := fun q => if q = fs.locate p then some node else fs.node q } := by
  unfold write at written
  split at written
  · obtain ⟨node, overwritten, rfl⟩ := Option.map_eq_some_iff.mp written
    exact ⟨node, overwritten, rfl⟩
  · cases written

theorem locate_write (written : fs.write p content = some after) :
    after.locate = fs.locate := by
  obtain ⟨node, -, rfl⟩ := write_eq written
  rfl

/-- What lies elsewhere stays. -/
theorem status_write_elsewhere (written : fs.write p content = some after) {q : Path}
    (elsewhere : fs.locate q ≠ fs.locate p) : after.status q = fs.status q := by
  obtain ⟨node, -, rfl⟩ := write_eq written
  exact if_neg elsewhere

/-- The written file holds the content, unless it must not be read. -/
theorem status_write (written : fs.write p content = some after) {q : Path}
    (there : fs.locate q = fs.locate p) :
    after.status q =
      some (if (fs.status p).any Node.isUnreadable then .unreadable content.length
        else .file content) := by
  obtain ⟨node, overwritten, rfl⟩ := write_eq written
  refine (if_pos there).trans (congrArg some ?_)
  cases old : fs.status p with
  | none =>
    rw [old] at overwritten
    exact (Option.some.inj overwritten).symm
  | some before =>
    rw [old] at overwritten
    cases before <;> cases overwritten <;> simp [Node.isUnreadable]

/-- Only what exists has a hash. -/
theorem pathExists_of_hashed {fs : FileSystem} {p : Path} (hashed : fs.sha256File p ≠ "") :
    fs.pathExists p = .ok true := by
  unfold sha256File at hashed
  unfold pathExists
  split at hashed
  next present => rw [present]
  next present => rw [present]
  all_goals exact absurd rfl hashed

theorem sha256File_of_status {fs other : FileSystem} {p q : Path}
    (same : fs.status p = other.status q) : fs.sha256File p = other.sha256File q := by
  unfold sha256File
  rw [same]

end FileSystem

end PnC.Source
