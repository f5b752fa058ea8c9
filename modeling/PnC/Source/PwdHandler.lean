import PnC.Source.Message

/-!
# PWD handler

PWD_Handler.cpp and archive_validator.cpp. What libarchive does is a parameter; the clock and
the texts of exceptions are arguments. The globals of a file error are passed on from one call
to the next: callback_mutex_ is held around each.
-/
namespace PnC.Source

/-- ArchiveValidator::Error -/
inductive ArchiveError where
  | none
  | wrongPassword
  | fileError
  deriving DecidableEq

/-- ArchiveValidator::Result -/
structure ArchiveResult where
  valid : Bool
  error : ArchiveError
  message : String
  deriving DecidableEq

/-- ARCHIVE_OK -/
def archiveOk : Int := 0

/-- ARCHIVE_RETRY -/
def archiveRetry : Int := -10

/-- The text up to the first NUL, which is what is read from c_str(). -/
def cStr (text : String) : String := String.ofList (text.toList.takeWhile (· ≠ '\x00'))

/-- Return codes by the passphrase that was added and the path, with what
archive_error_string says behind them. -/
structure LibArchive where
  /-- archive_read_new returns a reader -/
  readNew : Bool
  openFilename : Option String → String → Int × String
  nextHeader : Option String → String → Int × String

namespace ArchiveValidator

/-- The passphrase that is added: none for an empty password. -/
def passphrase (password : String) : Option String :=
  if password = "" then none else some (cStr password)

/-- validate behind an open that succeeded -/
def readHeader (lib : LibArchive) (path password : String) : ArchiveResult :=
  let read := lib.nextHeader (passphrase password) (cStr path)
  if read.1 = archiveOk then ⟨true, .none, "Password valid"⟩
  else if read.1 = archiveRetry then ⟨false, .wrongPassword, "Wrong password"⟩
  else ⟨false, .fileError, "Archive error: " ++ read.2⟩

/-- ArchiveValidator::validate -/
def validate (lib : LibArchive) (path password : String) : ArchiveResult :=
  if lib.readNew then
    let opened := lib.openFilename (passphrase password) (cStr path)
    if opened.1 ≠ archiveOk then ⟨false, .fileError, "Cannot open archive: " ++ opened.2⟩
    else readHeader lib path password
  else ⟨false, .fileError, "Failed to create archive reader"⟩

/-- A password is valid, wrong, or not looked at. -/
theorem validate_cases (lib : LibArchive) (path password : String) :
    (validate lib path password).valid = true ∨
      (validate lib path password).valid = false ∧
        ((validate lib path password).error = .wrongPassword ∨
          (validate lib path password).error = .fileError) := by
  unfold validate
  split
  · dsimp only
    split
    · exact .inr ⟨rfl, .inr rfl⟩
    · unfold readHeader
      dsimp only
      split
      · exact .inl rfl
      · split
        · exact .inr ⟨rfl, .inl rfl⟩
        · exact .inr ⟨rfl, .inr rfl⟩
  · exact .inr ⟨rfl, .inr rfl⟩

end ArchiveValidator

namespace PwdHandler

/-- The result as it is behind its first three assignments, with what a branch adds. -/
def answer (work : WorkUnitMessage) (status : String) (result : Json)
    (foundPassword fileError : Option String) : ResultMessage :=
  { workUnitId := work.workUnitId, seq := work.seq, consumerId := "", status, result,
    timestamp := "", foundPassword, fileError }

/-- The try block behind its read of the job. `g` is g_pwd_file_error with its message. -/
def test (lib : LibArchive) (duration : Int) (g : Option String) (work : WorkUnitMessage)
    (password : String) : ResultMessage × Option String :=
  match g with
  | some message =>
    (answer work "failure" (.object [("error", .string message)]) none (some message), g)
  | none =>
    let vr := ArchiveValidator.validate lib work.sourceFile password
    if vr.valid then
      (answer work "success" (.object [("password", .string password),
        ("output", .string "password_valid"), ("duration_ms", .numberInteger duration)])
        (some password) none, g)
    else if vr.error = .fileError then
      (answer work "failure" (.object [("error", .string vr.message),
        ("duration_ms", .numberInteger duration)]) none (some vr.message), some vr.message)
    else
      (answer work "failure" (.object [("password", .string password),
        ("output", .string "wrong_password"), ("duration_ms", .numberInteger duration)])
        none none, g)

/-- PWD_Handler::handle -/
def handle (lib : LibArchive) (what : Exception → String) (duration : Int) (g : Option String)
    (work : WorkUnitMessage) : ResultMessage × Option String :=
  match work.job.value "password" "" Json.getString with
  | .ok password => test lib duration g work password
  | .error e => (answer work "failure" (.object [("error", .string (what e))]) none none, g)

variable {lib : LibArchive} {what : Exception → String} {duration : Int} {g : Option String}
  {work : WorkUnitMessage} {password : String}

theorem handle_of_read (read : work.job.value "password" "" Json.getString = .ok password) :
    handle lib what duration g work = test lib duration g work password := by
  rw [handle, read]

/-- A call that reports nothing has had its password refused. -/
theorem refused_of_handle (read : work.job.value "password" "" Json.getString = .ok password)
    (noPassword : (handle lib what duration g work).1.status = "success" →
      (handle lib what duration g work).1.foundPassword = none)
    (noError : (handle lib what duration g work).1.status ≠ "success" →
      (handle lib what duration g work).1.fileError = none) :
    (ArchiveValidator.validate lib work.sourceFile password).error = .wrongPassword := by
  rw [handle_of_read read] at noPassword noError
  unfold test at noPassword noError
  cases g with
  | some message => cases noError (show "failure" ≠ "success" by decide)
  | none =>
    dsimp only at noPassword noError
    obtain valid | ⟨invalid, wrong | fileError⟩ :=
      ArchiveValidator.validate_cases lib work.sourceFile password
    · rw [if_pos valid] at noPassword
      cases noPassword rfl
    · exact wrong
    · rw [invalid, if_neg Bool.false_ne_true, if_pos fileError] at noError
      cases noError (show "failure" ≠ "success" by decide)

end PwdHandler

end PnC.Source
