import PnC.Source.FirstWorkUnit

/-!
# The source file when the pool starts

download_source_file compares a local copy with source_hash, and does not compare what it
has downloaded; download_additional_files compares everything, with the hashes of the
manifest. When the pool starts, the source file has source_hash exactly when the last of
these that concerned it did.
-/
namespace PnC.Guarantees.VerifiedSource

open PnC.Source

/-- The hash in the last element of the manifest that is kept in the file at `path`. -/
def manifestHash (config : ConsumerFiles) (locate : Path → Path) (path : Path) :
    List Json → Option String
  | [] => none
  | element :: rest =>
    match manifestHash config locate path rest with
    | some hash => some hash
    | none =>
      match ManifestEntry.fromJson element with
      | .ok entry =>
        if locate path = locate (config.localPath entry.name) then some entry.sha256
        else none
      | .error _ => none

/-- The local copy has the hash, or what the server sends for it does, and can be read
where it is saved. -/
def SourceMatches (fs : FileSystem) (path : Path) (hash : String)
    (connection : Option FileConnection) : Prop :=
  fs.sha256File path = hash ∨
    ∃ bytes, fetch connection = .contents bytes ∧
      ¬ (fs.status path).any Node.isUnreadable ∧ sha256Stream bytes = hash

/-- An element of the manifest that is kept in the same file has the hash; if there is
none, the source file matches. -/
def Matches (config : ConsumerFiles) (fs : FileSystem) (json : JsonText) (server : FileServer)
    (path : Path) (hash : String) : Prop :=
  ∃ elements, config.manifestElements json server.manifest = .ok elements ∧
    match manifestHash config fs.locate path elements with
    | some last => last = hash
    | none => SourceMatches fs path hash server.source

/-! ## The two downloads -/

section Downloads
variable {config : ConsumerFiles} {fs after : FileSystem} {path : Path}

theorem saveFile_writes {connection : Option FileConnection}
    (saved : saveFile fs path connection = .ok after) :
    ∃ bytes, fetch connection = .contents bytes ∧ fs.write path bytes = some after := by
  unfold saveFile at saved
  split at saved
  next => cases saved
  next => cases saved
  next bytes received =>
    split at saved
    next => cases saved
    next written =>
      cases saved
      exact ⟨bytes, received, written⟩

theorem sha256File_write {bytes : List UInt8} (written : fs.write path bytes = some after) :
    after.sha256File path =
      if (fs.status path).any Node.isUnreadable then "" else sha256Stream bytes := by
  unfold FileSystem.sha256File
  rw [FileSystem.status_write written rfl]
  by_cases secret : (fs.status path).any Node.isUnreadable
  · simp only [if_pos secret]
  · simp only [if_neg secret]

/-- Nothing but the file at the path has changed. -/
structure OnlyAt (path : Path) (fs after : FileSystem) : Prop where
  locate : after.locate = fs.locate
  elsewhere : ∀ q, fs.locate q ≠ fs.locate path → after.status q = fs.status q

theorem onlyAt_refl (path : Path) (fs : FileSystem) : OnlyAt path fs fs :=
  ⟨rfl, fun _ _ => rfl⟩

theorem onlyAt_write {bytes : List UInt8} (written : fs.write path bytes = some after) :
    OnlyAt path fs after :=
  ⟨FileSystem.locate_write written, fun _ => FileSystem.status_write_elsewhere written⟩

/-- Two paths that lead to the same place have the same hash. -/
theorem sha256File_congr {q : Path} (same : fs.locate q = fs.locate path) :
    fs.sha256File q = fs.sha256File path := by
  unfold FileSystem.sha256File FileSystem.status
  rw [same]

theorem downloadSourceFile_saves {sourceFile : Path} {hash : String}
    {connection : Option FileConnection} (given : hash ≠ "")
    (saved : config.downloadSourceFile fs sourceFile hash connection = .ok after) :
    after.locate = fs.locate ∧
      (after.sha256File (config.localPath sourceFile.filename) = hash ↔
        SourceMatches fs (config.localPath sourceFile.filename) hash connection) := by
  unfold ConsumerFiles.downloadSourceFile at saved
  dsimp only at saved
  generalize config.localPath sourceFile.filename = path at saved ⊢
  unfold SourceMatches
  split at saved
  next => cases saved
  next present existing =>
    split at saved
    next kept =>
      cases saved
      have matched := kept.2.resolve_left given
      exact ⟨rfl, iff_of_true matched (Or.inl matched)⟩
    next stale =>
      obtain ⟨bytes, received, written⟩ := saveFile_writes saved
      refine ⟨FileSystem.locate_write written, ?_⟩
      rw [sha256File_write written, received]
      constructor
      · intro verified
        split at verified
        next => exact absurd verified.symm given
        next readable => exact Or.inr ⟨bytes, rfl, readable, verified⟩
      · rintro (matched | ⟨sent, same, readable, matched⟩)
        · -- a copy that had the hash would not have been replaced
          have there := FileSystem.pathExists_of_hashed (matched ▸ given)
          rw [existing] at there
          exact absurd ⟨Except.ok.inj there, Or.inr matched⟩ stale
        · cases same
          rw [if_neg readable]
          exact matched

theorem downloadEntry_verifies {entry : ManifestEntry} {connection : Option FileConnection}
    (done : config.downloadEntry fs entry connection = .ok after) :
    OnlyAt (config.localPath entry.name) fs after ∧
      after.sha256File (config.localPath entry.name) = entry.sha256 := by
  unfold ConsumerFiles.downloadEntry at done
  dsimp only at done
  split at done
  next => cases done
  next present existing =>
    split at done
    next kept =>
      cases done
      exact ⟨onlyAt_refl _ fs, kept.2⟩
    next stale =>
      split at done
      next => cases done
      next saved downloaded =>
        split at done
        next verified =>
          cases done
          obtain ⟨bytes, -, written⟩ := saveFile_writes downloaded
          exact ⟨onlyAt_write written, verified⟩
        next => cases done

/-- After the loop a file has the hash of the last element that is kept in it, and is
unchanged if there is none. -/
theorem downloadEntries_verifies {connections : Nat → Option FileConnection} {i : Nat}
    {elements : List Json} (done : config.downloadEntries connections i elements fs = .ok after)
    (path : Path) :
    after.sha256File path =
      (manifestHash config fs.locate path elements).getD (fs.sha256File path) := by
  induction elements generalizing i fs with
  | nil =>
    cases done
    rfl
  | cons element rest ih =>
    unfold ConsumerFiles.downloadEntries at done
    split at done
    next => cases done
    next entry parsed =>
      split at done
      next => cases done
      next saved one =>
        obtain ⟨only, verified⟩ := downloadEntry_verifies one
        rw [ih done, only.locate, manifestHash, parsed]
        cases manifestHash config fs.locate path rest with
        | some last => rfl
        | none =>
          dsimp only
          split
          next there =>
            rw [← only.locate] at there
            exact (sha256File_congr there).trans verified
          next elsewhere =>
            exact FileSystem.sha256File_of_status (only.elsewhere path elsewhere)

end Downloads

/-- If the pool is started for a work unit that carries a hash, the source file has the
hash exactly when the manifest or, if that does not list it, the local copy or the download
has it. -/
theorem source_verified_iff (config : ConsumerFiles) (fs : FileSystem) (json : JsonText)
    (server : FileServer) (work : WorkUnitMessage) (hash : String) (after : FileSystem)
    (carried : work.sourceHash = some hash) (given : hash ≠ "")
    (started : config.receiveFirst fs json server work = .started after) :
    after.sha256File (config.localPath (Path.ofString work.sourceFile).filename) = hash ↔
      Matches config fs json server
        (config.localPath (Path.ofString work.sourceFile).filename) hash := by
  unfold ConsumerFiles.receiveFirst at started
  split at started
  next => cases started
  next =>
    split at started
    next => cases started
    next saved first =>
      rw [carried] at first
      obtain ⟨located, source⟩ := downloadSourceFile_saves given first
      unfold ConsumerFiles.downloadAdditionalFiles at started
      split at started
      next => cases started
      next done second =>
        cases started
        split at second
        next => cases second
        next elements read =>
          unfold Matches
          rw [downloadEntries_verifies second, located, read]
          simp only [Except.ok.injEq, exists_eq_left']
          cases manifestHash config fs.locate _ elements with
          | some last => exact Iff.rfl
          | none => exact source

/-! ## A download into an empty directory -/

def emptyDir : FileSystem := ⟨fun p => p, fun _ => none, fun _ => true⟩

def localConsumer : ConsumerFiles := ⟨[46], true, "127.0.0.1"⟩

def echoUnit (hash : String) : WorkUnitMessage :=
  ⟨"ECHO", "/srv/a.bin", "", none, "prod-1-0", 0, "", "prod-1", .object [("seq", .numberInteger 0)],
    some hash⟩

/-- A server that sends the bytes 1, 2, 3 for the source file. -/
def threeBytes : FileServer :=
  ⟨some ⟨frame [1, 2, 3], ⟨0, 0, fun _ => 0, fun _ => 0, fun _ => 0⟩⟩, none, fun _ => none⟩

/-- `./a.bin` -/
def localCopy : Path := localConsumer.localPath (Path.ofString "a.bin")

def withCopy : FileSystem :=
  { emptyDir with node := fun q => if q = localCopy then some (.file [1, 2, 3]) else none }

theorem fetch_threeBytes : fetch threeBytes.source = .contents [1, 2, 3] :=
  receive_frame _ (by decide) (by decide) []

/-- The bytes are saved and the pool is started, whatever hash the unit carries. -/
theorem started_echoUnit (hash : String) :
    localConsumer.receiveFirst emptyDir noText threeBytes (echoUnit hash) = .started withCopy := by
  have saved : localConsumer.downloadSourceFile emptyDir (Path.ofString "/srv/a.bin") hash
      threeBytes.source = saveFile emptyDir localCopy threeBytes.source := rfl
  unfold saveFile at saved
  rw [fetch_threeBytes] at saved
  unfold ConsumerFiles.receiveFirst
  rw [if_neg (by simp [echoUnit, Json.isEmpty])]
  dsimp only [echoUnit, Option.getD_some]
  rw [saved]
  rfl

/-- With the hash of what is served, the copy has it. -/
theorem source_verified_iff_served :
    withCopy.sha256File localCopy = sha256Stream [1, 2, 3] :=
  (source_verified_iff localConsumer emptyDir noText threeBytes (echoUnit (sha256Stream [1, 2, 3]))
    (sha256Stream [1, 2, 3]) withCopy rfl (sha256Stream_ne_empty _) (started_echoUnit _)).mpr
      ⟨[], rfl, Or.inr ⟨[1, 2, 3], fetch_threeBytes, by decide, rfl⟩⟩

/-- With any other hash, here one that is not even a digest, the pool is started as well. -/
theorem download_is_not_verified :
    ¬ ∀ (config : ConsumerFiles) (fs : FileSystem) (json : JsonText) (server : FileServer)
      (work : WorkUnitMessage) (hash : String) (after : FileSystem),
        work.sourceHash = some hash → hash ≠ "" →
          config.receiveFirst fs json server work = .started after →
            after.sha256File (config.localPath (Path.ofString work.sourceFile).filename) =
              hash := by
  intro claimed
  have verified : sha256Stream [1, 2, 3] = "d34db33f" :=
    claimed localConsumer emptyDir noText threeBytes (echoUnit "d34db33f") "d34db33f" withCopy rfl
      (by decide) (started_echoUnit _)
  have length := length_sha256Stream [1, 2, 3]
  rw [verified] at length
  exact absurd length (by decide)

end PnC.Guarantees.VerifiedSource
