import PnC.Library.PathWalk
import PnC.Source.FileTransfer

/-!
# What the file transfer port exposes

handle_file_transfer takes any name that leads to something. The base names of source_file
and of the config file lead to these files; a name that is looked up in the current
directory or next to the config file leads wherever it says.
-/
namespace PnC.Guarantees.FileExposure

open PnC.Library PnC.Source

/-- How POSIX writes paths. -/
def posix : PathSyntax UInt8 where
  separator := Path.separator
  here := Path.ofString "."
  up := Path.ofString ".."

section
variable (job : JobFiles) (fs : FileSystem)

/-- The config directory; a config file without a directory is in the current one. -/
def configTree : Path := if job.configDir = [] then posix.here else job.configDir

/-- The files of the job, by the paths that all links have been followed on. -/
inductive JobFile (path : Path) : Prop
  | current (within : posix.Within (fs.locate posix.here) path)
  | config (within : posix.Within (fs.locate (configTree job)) path)
  | sourceFile (source : Path) (found : job.hashPath fs = .ok (some source))
      (same : path = fs.locate source)
  | filePath (same : path = fs.locate job.filePath)

/-- A lookup that finds a file finds one of the job. -/
def LeadsToJob (p : Path) : Prop :=
  ∀ content, fs.status p = some (.file content) → JobFile job fs (fs.locate p)

/-- What the current directory has under the name is of the job; if it has nothing there,
what the config directory has under it is. -/
def Confined (filename : Path) : Prop :=
  LeadsToJob job fs filename ∧
    (fs.status filename = none → LeadsToJob job fs (job.configDir.append filename))

end

variable {job : JobFiles} {fs : FileSystem} {filename path : Path} {content : List UInt8}

theorem exists_of_file {p : Path} (present : fs.status p = some (.file content)) :
    fs.pathExists p = .ok true := by
  rw [FileSystem.pathExists, present]

theorem absent_of_exists {p : Path} (absent : fs.pathExists p = .ok false) :
    fs.status p = none := by
  unfold FileSystem.pathExists at absent
  split at absent
  next nothing => exact nothing
  next => cases absent
  next => cases absent

theorem exists_of_absent {p : Path} (nothing : fs.status p = none) :
    fs.pathExists p = .ok false := by
  rw [FileSystem.pathExists, nothing]

/-- The two branches for configured files find files of the job, the two lookups of the
name those that it leads to. -/
theorem jobFile_of_resolved (resolved : job.Resolved fs filename path)
    (confined : Confined job fs filename) (readable : fs.node path = some (.file content)) :
    JobFile job fs path := by
  cases resolved with
  | here present => exact confined.1 content readable
  | configDir absent present => exact confined.2 (absent_of_exists absent) content readable
  | sourceFile given present base =>
    refine .sourceFile job.sourceFile ?_ rfl
    rw [JobFiles.hashPath, if_neg given, present]
    rfl
  | filePath present base => exact .filePath rfl

theorem resolve_here (present : fs.status filename = some (.file content)) :
    job.resolve fs filename = .ok (some (fs.locate filename)) := by
  rw [JobFiles.resolve, exists_of_file present]
  rfl

theorem resolve_configDir (nothing : fs.status filename = none)
    (present : fs.status (job.configDir.append filename) = some (.file content)) :
    job.resolve fs filename = .ok (some (fs.locate (job.configDir.append filename))) := by
  rw [JobFiles.resolve, exists_of_absent nothing, exists_of_file present]
  rfl

/-- handle_file_transfer sends the contents of the file at the path. -/
def Sends (job : JobFiles) (fs : FileSystem) (json : JsonText)
    (additionalFiles : List AdditionalFile) (splits : Splits) (received : List UInt8)
    (path : Path) : Prop :=
  ∃ content, fs.node path = some (.file content) ∧
    handleFileTransfer job fs json additionalFiles splits received =
      .ok ⟨some path, splits.sendPayload content⟩

theorem opened_of_sendFile {splits : Splits} {found : Path}
    (opened : (sendFile fs splits found).opened = some path) : found = path := by
  unfold sendFile at opened
  split at opened <;> cases opened <;> rfl

/-- Contents are sent for a request of a file, from where its name leads. -/
theorem sends_iff {json : JsonText} {additionalFiles : List AdditionalFile} {splits : Splits}
    {received : List UInt8} :
    Sends job fs json additionalFiles splits received path ↔
      ∃ filename content, received.head? = some 1 ∧ requestedName received = .ok filename ∧
        job.resolve fs filename = .ok (some path) ∧ fs.node path = some (.file content) := by
  constructor
  · intro sends
    obtain ⟨content, readable, answered⟩ := sends
    unfold handleFileTransfer at answered
    split at answered
    next => cases answered
    next code rest =>
      split at answered
      next => split at answered <;> cases answered
      split at answered
      next => cases answered
      next request =>
        split at answered
        next => cases answered
        next filename named =>
          split at answered
          next => cases answered
          next => cases answered
          next found resolved =>
            have opened := congrArg FileAnswer.opened (Except.ok.inj answered)
            rw [opened_of_sendFile opened] at resolved
            have first : code = 1 := not_not.mp request
            exact ⟨filename, content, congrArg Option.some first, named, resolved, readable⟩
  · intro request
    obtain ⟨filename, content, code, named, resolved, readable⟩ := request
    refine ⟨content, readable, ?_⟩
    cases received with
    | nil => cases code
    | cons first rest =>
      cases code
      simp only [handleFileTransfer, named, resolved, sendFile, readable]
      rfl

/-- Only files of the job are sent for a request exactly when the name in it, if it asks for
a file, is confined. -/
theorem sends_job_files_iff (job : JobFiles) (fs : FileSystem) (json : JsonText)
    (additionalFiles : List AdditionalFile) (splits : Splits) (received : List UInt8) :
    (∀ path, Sends job fs json additionalFiles splits received path → JobFile job fs path) ↔
      ∀ filename, received.head? = some 1 → requestedName received = .ok filename →
        Confined job fs filename := by
  constructor
  · intro exposes filename code named
    constructor
    · intro content present
      exact exposes _ (sends_iff.mpr
        ⟨filename, content, code, named, resolve_here present, present⟩)
    · intro nothing content present
      exact exposes _ (sends_iff.mpr
        ⟨filename, content, code, named, resolve_configDir nothing present, present⟩)
  · intro confined path sends
    obtain ⟨filename, content, code, named, resolved, readable⟩ := sends_iff.mp sends
    exact jobFile_of_resolved (job.resolved resolved) (confined filename code named) readable

/-! ## Plain names -/

/-- What is there is found by walking its path: there are no links. -/
structure LinkFree (fs : FileSystem) (current : List Path) : Prop where
  nothing : fs.status [] = none
  here : ∃ entries seekable, fs.status posix.here = some (.directory entries seekable)
  locate : ∀ p, fs.status p ≠ none →
    fs.locate p = posix.render
      (posix.walk (if p.head? = some Path.separator then [] else current) p)

/-- What lies below a directory is within it. -/
theorem within_of_below {directory p : Path} {names : List Path} {start : List Path}
    (tree : ∃ entries seekable, fs.status directory = some (.directory entries seekable))
    (found : fs.locate directory = posix.render start)
    (below : fs.locate p = posix.render (start ++ names))
    (present : fs.status p = some (.file content)) :
    posix.Within (fs.locate directory) (fs.locate p) := by
  rw [found, below]
  apply posix.within_render
  intro none
  obtain ⟨entries, seekable, isDirectory⟩ := tree
  rw [FileSystem.status, found] at isDirectory
  rw [FileSystem.status, below, none, List.append_nil, isDirectory] at present
  cases present

theorem head_append {directory : Path} (given : directory ≠ [])
    (relative : filename.head? ≠ some Path.separator) :
    (directory.append filename).head? = directory.head? := by
  obtain ⟨first, rest, rfl⟩ := List.exists_cons_of_ne_nil given
  unfold Path.append
  rw [if_neg relative]
  split <;> rfl

/-- A path without a file name is empty or ends in a separator. -/
theorem ends_of_filename {directory : Path} (given : directory ≠ [])
    (ends : directory.filename = []) : ∃ outer, directory = outer ++ [Path.separator] := by
  obtain ⟨outer, last, rfl⟩ := List.eq_nil_or_concat directory |>.resolve_left given
  refine ⟨outer, ?_⟩
  by_cases same : last = Path.separator
  · rw [same, List.concat_eq_append]
  · simp [Path.filename, same] at ends

/-- The name is looked up in the directory. -/
theorem walk_path_append {directory : Path} (given : directory ≠ [])
    (relative : filename.head? ≠ some Path.separator) (start : List Path) :
    posix.walk start (directory.append filename) =
      posix.walk (posix.walk start directory) filename := by
  unfold Path.append
  rw [if_neg relative]
  split
  next ends =>
    obtain ⟨outer, rfl⟩ := ends_of_filename given ends
    rw [List.append_assoc]
    calc posix.walk start (outer ++ posix.separator :: filename)
        = posix.walk (posix.walk start outer) filename := posix.walk_append ..
      _ = posix.walk (posix.walk (posix.walk start outer) []) filename := by rw [posix.walk_nil]
      _ = posix.walk (posix.walk start (outer ++ [posix.separator])) filename := by
        rw [posix.walk_append]
  next => exact posix.walk_append start directory filename

/-- Without links, a relative name that never goes up is confined. -/
theorem confined_of_plain {current : List Path} (links : LinkFree fs current)
    (config : ∃ entries seekable,
      fs.status (configTree job) = some (.directory entries seekable))
    (relative : filename.head? ≠ some Path.separator)
    (noUp : posix.up ∉ posix.parts filename) : Confined job fs filename := by
  have located {p : Path} {node : Node} (present : fs.status p = some node) :=
    links.locate p (by rw [present]; exact Option.some_ne_none node)
  constructor
  · intro content present
    obtain ⟨entries, seekable, isDirectory⟩ := links.here
    obtain ⟨names, walked⟩ := posix.walk_below current noUp
    have below := located present
    rw [if_neg relative, walked] at below
    exact .current (within_of_below links.here (located isDirectory) below present)
  · intro nothing content present
    unfold configTree at config
    by_cases given : job.configDir = []
    · have same : job.configDir.append filename = filename := by
        simp [given, Path.append, Path.filename]
      rw [same, nothing] at present
      cases present
    · rw [if_neg given] at config
      obtain ⟨entries, seekable, isDirectory⟩ := config
      have tree := located isDirectory
      have below := located present
      rw [head_append given relative, walk_path_append given relative] at below
      generalize posix.walk _ job.configDir = start at tree below
      obtain ⟨names, walked⟩ := posix.walk_below start noUp
      rw [walked] at below
      apply JobFile.config
      rw [configTree, if_neg given]
      exact within_of_below ⟨entries, seekable, isDirectory⟩ tree below present

/-- A job in a directory of its own, and a file elsewhere. -/
def passwordsElsewhere : FileSystem where
  locate p := if p.head? = some Path.separator then p else Path.ofString "/srv/job/" ++ p
  node p :=
    if p = Path.ofString "/srv/job/config.json" then some (.file [])
    else if p = Path.ofString "/etc/passwd" then some (.file [120])
    else none
  writable _ := false

def flatJob : JobFiles := ⟨Path.ofString "config.json", []⟩

/-- A text format that no file request uses. -/
def noJson : JsonText := ⟨fun _ => "[]", fun _ => .ok .null⟩

def wholeCalls : Splits := ⟨4095, 3, fun _ => 65535, fun _ => 3, fun _ => 65535⟩

/-- A request for an absolute name is answered with the file that has it. -/
theorem absolute_name_exposed :
    ¬ ∀ (job : JobFiles) (fs : FileSystem) (json : JsonText)
      (additionalFiles : List AdditionalFile) (splits : Splits) (received : List UInt8)
      (path : Path), Sends job fs json additionalFiles splits received path →
        JobFile job fs path := by
  intro claimed
  have sends : Sends flatJob passwordsElsewhere noJson [] wholeCalls
      (fileRequest (Path.ofString "/etc/passwd")) (Path.ofString "/etc/passwd") :=
    sends_iff.mpr ⟨Path.ofString "/etc/passwd", [120], rfl, rfl, rfl, rfl⟩
  cases claimed _ _ _ _ _ _ _ sends with
  | current within => exact absurd within (by decide)
  | config within => exact absurd within (by decide)
  | sourceFile source found same => cases found
  | filePath same => exact absurd same (by decide)

end PnC.Guarantees.FileExposure
