import PnC.Source.FileTransfer

/-!
# The file that is served for an advertised hash

load_job_config hashes source_file where the producer finds it, scan_additional_files
hashes the files next to the config file, and both are asked for by name alone.
handle_file_transfer looks for a name in the current directory first, then next to the
config file, and only then where source_file says.
-/
namespace PnC.Guarantees.ServedFile

open PnC.Source

/-- The file at the path can be read and has the hash. -/
def Holds (fs : FileSystem) (p : Path) (hash : String) : Prop :=
  ∃ content, fs.status p = some (.file content) ∧ sha256Stream content = hash

/-- A request for the name is answered with a file that has the hash. -/
def Serves (job : JobFiles) (fs : FileSystem) (filename : Path) (hash : String) : Prop :=
  ∃ path content, job.resolve fs filename = .ok (some path) ∧
    fs.node path = some (.file content) ∧ sha256Stream content = hash

/-- What was hashed is served. -/
structure ServesAdvertised (job : JobFiles) (fs : FileSystem) : Prop where
  siblings : ∀ files, job.scanAdditionalFiles fs = .ok files →
    ∀ file ∈ files, Serves job fs file.name file.sha256
  source : ∀ hash, job.sourceHash fs = .ok hash → hash ≠ "" →
    Serves job fs job.sourceFile.filename hash

/-- What the current directory has under the name has the same hash; or it has nothing
there, and the file that was hashed can be read. -/
def SiblingAgrees (job : JobFiles) (fs : FileSystem) (file : AdditionalFile) : Prop :=
  Holds fs file.name file.sha256 ∨
    fs.status file.name = none ∧
      ∃ content, fs.status (job.configDir.append file.name) = some (.file content)

/-- The first of three places that has anything has the hash: the base name in the current
directory, the base name next to the config file, and source_file itself in the current
directory, where it can be read if it was hashed. If none of them has anything, the config
file has both the base name and the hash. -/
def SourceAgrees (job : JobFiles) (fs : FileSystem) (hash : String) : Prop :=
  let filename := job.sourceFile.filename
  Holds fs filename hash ∨
    fs.status filename = none ∧
      (Holds fs (job.configDir.append filename) hash ∨
        fs.status (job.configDir.append filename) = none ∧
          ((∃ content, fs.status job.sourceFile = some (.file content)) ∨
            fs.status job.sourceFile = none ∧ job.filePath.filename = filename ∧
              Holds fs job.filePath hash))

/-- The layout gives every hashed file its name to itself. -/
structure NamesAgree (job : JobFiles) (fs : FileSystem) : Prop where
  siblings : ∀ files, job.scanAdditionalFiles fs = .ok files →
    ∀ file ∈ files, SiblingAgrees job fs file
  source : ∀ hash, job.sourceHash fs = .ok hash → hash ≠ "" → SourceAgrees job fs hash

/-! ## Where a name leads -/

section Resolve
variable {job : JobFiles} {fs : FileSystem} {filename : Path} {node : Node}

/-- The answer of the server once it has come to a path with something there. -/
def settled (fs : FileSystem) (p : Path) (node : Node) : Except Exception (Option Path) :=
  if node = .inaccessible then .error FileSystem.filesystemError else .ok (some (fs.locate p))

theorem resolve_here (present : fs.status filename = some node) :
    job.resolve fs filename = settled fs filename node := by
  unfold JobFiles.resolve FileSystem.pathExists
  rw [present]
  cases node <;> rfl

theorem resolve_configDir (notHere : fs.status filename = none)
    (present : fs.status (job.configDir.append filename) = some node) :
    job.resolve fs filename = settled fs (job.configDir.append filename) node := by
  unfold JobFiles.resolve FileSystem.pathExists
  rw [notHere, present]
  cases node <;> rfl

theorem resolve_sourceFile (notHere : fs.status filename = none)
    (notThere : fs.status (job.configDir.append filename) = none) (given : job.sourceFile ≠ [])
    (base : job.sourceFile.filename = filename) (present : fs.status job.sourceFile = some node) :
    job.resolve fs filename = settled fs job.sourceFile node := by
  unfold JobFiles.resolve FileSystem.pathExists
  rw [notHere, notThere, present, if_pos given]
  cases node <;> simp [settled, base, bind, Except.bind, pure, Except.pure]

theorem resolve_filePath (notHere : fs.status filename = none)
    (notThere : fs.status (job.configDir.append filename) = none)
    (gone : fs.status job.sourceFile = none) :
    job.resolve fs filename =
      match fs.status job.filePath with
      | none => .ok none
      | some node =>
        if job.filePath.filename = filename then settled fs job.filePath node
        else if node = .inaccessible then .error FileSystem.filesystemError
        else .ok none := by
  unfold JobFiles.resolve FileSystem.pathExists
  rw [notHere, notThere, gone]
  by_cases given : job.sourceFile = [] <;> by_cases base : job.filePath.filename = filename <;>
    cases fs.status job.filePath with
    | none => simp [given, bind, Except.bind, pure, Except.pure]
    | some node => cases node <;> simp [settled, given, base, bind, Except.bind, pure, Except.pure]

/-- Where the server has come to, it serves what is there. -/
theorem serves_settled {p : Path} (present : fs.status p = some node)
    (resolved : job.resolve fs filename = settled fs p node) (hash : String) :
    Serves job fs filename hash ↔ Holds fs p hash := by
  unfold Serves Holds
  rw [resolved, settled]
  constructor
  · intro serves
    obtain ⟨path, content, found, holds, hashed⟩ := serves
    split at found
    next => cases found
    next =>
      cases found
      exact ⟨content, holds, hashed⟩
  · intro there
    obtain ⟨content, holds, hashed⟩ := there
    rw [present] at holds
    cases holds
    exact ⟨_, content, rfl, present, hashed⟩

theorem not_holds_of_absent {p : Path} (absent : fs.status p = none) (hash : String) :
    ¬ Holds fs p hash := by
  intro holds
  obtain ⟨content, present, -⟩ := holds
  rw [absent] at present
  cases present

theorem serves_filePath_iff (notHere : fs.status filename = none)
    (notThere : fs.status (job.configDir.append filename) = none)
    (gone : fs.status job.sourceFile = none) (hash : String) :
    Serves job fs filename hash ↔
      job.filePath.filename = filename ∧ Holds fs job.filePath hash := by
  have resolved := resolve_filePath notHere notThere gone
  by_cases base : job.filePath.filename = filename
  · simp only [if_pos base] at resolved
    cases config : fs.status job.filePath with
    | none =>
      rw [config] at resolved
      apply iff_of_false
      · intro serves
        obtain ⟨path, content, found, -⟩ := serves
        rw [resolved] at found
        cases found
      · exact fun agrees => not_holds_of_absent config hash agrees.2
    | some node =>
      rw [config] at resolved
      rw [serves_settled config resolved]
      exact (and_iff_right base).symm
  · apply iff_of_false
    · intro serves
      obtain ⟨path, content, found, -⟩ := serves
      rw [resolved] at found
      simp only [if_neg base] at found
      split at found
      next => cases found
      next => split at found <;> cases found
    · exact fun agrees => base agrees.1

end Resolve

/-! ## What was hashed -/

section Hashed
variable {job : JobFiles} {fs : FileSystem}

theorem sha256File_of_file {p : Path} {content : List UInt8}
    (holds : fs.status p = some (.file content)) : fs.sha256File p = sha256Stream content := by
  unfold FileSystem.sha256File
  rw [holds]

/-- A file next to the config file is hashed where the scan finds it. -/
theorem scanEntry_hashes {name : Path} {file : AdditionalFile}
    (scanned : job.scanEntry fs name = .ok (some file)) :
    file.sha256 = fs.sha256File (job.configDir.append file.name) ∧
      ∃ node, fs.status (job.configDir.append file.name) = some node := by
  unfold JobFiles.scanEntry at scanned
  dsimp only at scanned
  split at scanned
  next content present =>
    split at scanned
    · cases scanned
    · cases scanned
      exact ⟨rfl, _, present⟩
  next size present =>
    split at scanned
    · cases scanned
    · cases scanned
      exact ⟨rfl, _, present⟩
  next => cases scanned
  next => cases scanned
  next => cases scanned

theorem scanEntries_hashes {entries : List Path} {files : List AdditionalFile}
    (scanned : job.scanEntries fs entries = .ok files) (file : AdditionalFile)
    (listed : file ∈ files) :
    file.sha256 = fs.sha256File (job.configDir.append file.name) ∧
      ∃ node, fs.status (job.configDir.append file.name) = some node := by
  induction entries generalizing files with
  | nil =>
    cases scanned
    cases listed
  | cons name rest ih =>
    unfold JobFiles.scanEntries at scanned
    cases first : job.scanEntry fs name with
    | error what =>
      rw [first] at scanned
      cases scanned
    | ok found =>
      rw [first] at scanned
      cases others : job.scanEntries fs rest with
      | error what =>
        simp only [others] at scanned
        cases scanned
      | ok later =>
        simp only [others] at scanned
        cases scanned
        rcases List.mem_append.mp listed with new | old
        · rw [Option.mem_toList.mp new] at first
          exact scanEntry_hashes first
        · exact ih others old

theorem scanAdditionalFiles_hashes {files : List AdditionalFile}
    (scanned : job.scanAdditionalFiles fs = .ok files) (file : AdditionalFile)
    (listed : file ∈ files) :
    file.sha256 = fs.sha256File (job.configDir.append file.name) ∧
      ∃ node, fs.status (job.configDir.append file.name) = some node := by
  unfold JobFiles.scanAdditionalFiles at scanned
  cases directory : fs.isDirectory job.configDir with
  | error what =>
    rw [directory] at scanned
    cases scanned
  | ok isDirectory =>
    rw [directory] at scanned
    cases isDirectory with
    | false =>
      cases scanned
      cases listed
    | true => exact scanEntries_hashes scanned file listed

/-- source_file is given, and what it leads to in the current directory was hashed if
there is anything. -/
theorem sourceHash_hashes {hash : String} (computed : job.sourceHash fs = .ok hash)
    (given : hash ≠ "") :
    job.sourceFile ≠ [] ∧
      ∀ node, fs.status job.sourceFile = some node → hash = fs.sha256File job.sourceFile := by
  unfold JobFiles.sourceHash JobFiles.hashPath at computed
  by_cases nothing : job.sourceFile = []
  · rw [if_pos nothing] at computed
    cases computed
    exact absurd rfl given
  · refine ⟨nothing, fun node present => ?_⟩
    rw [if_neg nothing] at computed
    unfold FileSystem.pathExists at computed
    rw [present] at computed
    cases node <;> cases computed <;> rfl

end Hashed

/-- A sibling is served for its hash exactly when its name is its own. -/
theorem serves_sibling_iff {job : JobFiles} {fs : FileSystem} {files : List AdditionalFile}
    (scanned : job.scanAdditionalFiles fs = .ok files) {file : AdditionalFile}
    (listed : file ∈ files) :
    Serves job fs file.name file.sha256 ↔ SiblingAgrees job fs file := by
  obtain ⟨hashed, node, present⟩ := scanAdditionalFiles_hashes scanned file listed
  unfold SiblingAgrees
  cases here : fs.status file.name with
  | some other =>
    rw [serves_settled here (resolve_here here)]
    simp
  | none =>
    rw [serves_settled present (resolve_configDir here present)]
    constructor
    · intro served
      obtain ⟨content, holds, -⟩ := served
      exact Or.inr ⟨rfl, content, holds⟩
    · rintro (holds | ⟨-, content, holds⟩)
      · exact absurd holds (not_holds_of_absent here _)
      · exact ⟨content, holds, by rw [hashed, sha256File_of_file holds]⟩

/-- The source file is served for its hash exactly when its base name is its own. -/
theorem serves_source_iff {job : JobFiles} {fs : FileSystem} {hash : String}
    (computed : job.sourceHash fs = .ok hash) (given : hash ≠ "") :
    Serves job fs job.sourceFile.filename hash ↔ SourceAgrees job fs hash := by
  obtain ⟨named, hashed⟩ := sourceHash_hashes computed given
  unfold SourceAgrees
  dsimp only
  cases here : fs.status job.sourceFile.filename with
  | some other =>
    rw [serves_settled here (resolve_here here)]
    simp
  | none =>
    have nothingHere := not_holds_of_absent here hash
    cases there : fs.status (job.configDir.append job.sourceFile.filename) with
    | some other =>
      rw [serves_settled there (resolve_configDir here there)]
      simp [nothingHere]
    | none =>
      have nothingThere := not_holds_of_absent there hash
      cases source : fs.status job.sourceFile with
      | some node =>
        rw [serves_settled source (resolve_sourceFile here there named rfl source)]
        constructor
        · intro served
          obtain ⟨content, holds, -⟩ := served
          exact Or.inr ⟨rfl, Or.inr ⟨rfl, Or.inl ⟨content, source.symm.trans holds⟩⟩⟩
        · rintro (holds | ⟨-, holds | ⟨-, ⟨content, readable⟩ | ⟨gone, -⟩⟩⟩)
          · exact absurd holds nothingHere
          · exact absurd holds nothingThere
          · have holds := source.trans readable
            exact ⟨content, holds, by rw [hashed node source, sha256File_of_file holds]⟩
          · cases gone
      | none =>
        rw [serves_filePath_iff here there source]
        constructor
        · intro agrees
          exact Or.inr ⟨rfl, Or.inr ⟨rfl, Or.inr ⟨rfl, agrees⟩⟩⟩
        · rintro (holds | ⟨-, holds | ⟨-, ⟨content, readable⟩ | ⟨-, agrees⟩⟩⟩)
          · exact absurd holds nothingHere
          · exact absurd holds nothingThere
          · cases readable
          · exact agrees

/-- Whatever was hashed is served exactly when the layout gives it its name to itself. -/
theorem serves_advertised_iff (job : JobFiles) (fs : FileSystem) :
    ServesAdvertised job fs ↔ NamesAgree job fs := by
  constructor
  · intro advertised
    constructor
    case siblings =>
      intro files scanned file listed
      exact (serves_sibling_iff scanned listed).mp (advertised.siblings files scanned file listed)
    case source =>
      intro hash computed given
      exact (serves_source_iff computed given).mp (advertised.source hash computed given)
  · intro agree
    constructor
    case siblings =>
      intro files scanned file listed
      exact (serves_sibling_iff scanned listed).mpr (agree.siblings files scanned file listed)
    case source =>
      intro hash computed given
      exact (serves_source_iff computed given).mpr (agree.source hash computed given)

/-- A job in a directory of its own, whose source file is in a directory below. -/
def nestedJob : JobFiles := ⟨Path.ofString "job/config.json", Path.ofString "data/a.zip"⟩

def nestedSource : FileSystem where
  locate p := p
  node p :=
    if p = Path.ofString "job/config.json" then some (.file [])
    else if p = Path.ofString "job/data/a.zip" then some (.file [80, 75, 3, 4])
    else none
  writable _ := false

/-- The source file is found and hashed below the directory of the config file, and not
found there when a consumer asks for it. -/
theorem nested_source_is_not_served : ¬ ∀ job fs, ServesAdvertised job fs := by
  intro claimed
  obtain ⟨path, content, found, -⟩ :=
    (claimed nestedJob nestedSource).source _ rfl (sha256Stream_ne_empty [80, 75, 3, 4])
  cases found

end PnC.Guarantees.ServedFile
