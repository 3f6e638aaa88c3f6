import Allotment.Files.Basic
import Allotment.Snapshot.Basic

/-!
# The snapshot file

A snapshot is written as JSON, one item a line, with a line feed at the end. The file is made beside its place and
moved there in one step, so that nobody meets half a file. A file is read back only if it does not contradict itself.
-/

namespace Allotment.Snapshot

/-- Why a snapshot file is not written or not read. -/
inductive ArtifactError where
  | unreadable (path : Path) (cause : FileError)
  | unwritable (path : Path) (cause : FileError)
  | undecodable (path : Path) (fault : Json.Fault)
  | contradictory (path : Path) (fault : Fault)

/-- The wording of an error. -/
def ArtifactError.message : ArtifactError → String
  | .unreadable path cause => "failed to read " ++ path.text ++ ": " ++ cause.message
  | .unwritable path cause => "failed to write snapshot " ++ path.text ++ ": " ++ cause.message
  | .undecodable path fault => "snapshot " ++ path.text ++ " is invalid: " ++ fault.message
  | .contradictory path fault => "snapshot " ++ path.text ++ " is invalid: " ++ fault.message

/-- The contents of the file of a snapshot. -/
def fileText (s : Snapshot) : String := s.pretty ++ "\n"

/-- The directory in which the file at a path is made. -/
def directoryOf (path : Path) : Path :=
  match path.parent? with
  | some parent => if parent.text.isEmpty then ⟨"."⟩ else parent
  | none => ⟨"."⟩

variable {m : Type → Type} [Monad m]

/-- Writes a snapshot to a path. -/
def write (files : Files m) (path : Path) (s : Snapshot) : m (Except ArtifactError Unit) := do
  match ← files.createDirectories (directoryOf path) with
  | .error cause => return .error (.unwritable path cause)
  | .ok () =>
    match ← files.replace (directoryOf path) path s.fileText.toUTF8 with
    | .error cause => return .error (.unwritable path cause)
    | .ok () => return .ok ()

/-- The snapshot that the text of a file holds. -/
def ofFileText (path : Path) (text : String) : Except ArtifactError Snapshot :=
  match Json.decodeText format.decoder text with
  | .error fault => .error (.undecodable path fault)
  | .ok s =>
    match s.validate with
    | .error fault => .error (.contradictory path fault)
    | .ok () => .ok s

/-- Reads the snapshot at a path. -/
def read (files : Files m) (path : Path) : m (Except ArtifactError Snapshot) := do
  match ← files.readText path with
  | .error cause => return .error (.unreadable path cause)
  | .ok text => return ofFileText path text

end Allotment.Snapshot
