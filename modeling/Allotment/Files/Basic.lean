import Allotment.Files.Path

/-!
# Access to files

`Files m` is the access to files that the rest of the library asks for, in a monad `m`. Every operation answers with
its outcome, so that a failure is handled where it arises.
-/

namespace Allotment

/-- Why an operation on files fails. -/
inductive FileError where
  | notFound
  | alreadyExists
  | notDirectory
  | isDirectory
  | busy
  | nameTooLong
  | zeroInName
  | invalidArgument
  | notText
  | other (reason : String)
  deriving DecidableEq

/-- The wording of a failure. -/
def FileError.message : FileError → String
  | .notFound => "No such file or directory (os error 2)"
  | .alreadyExists => "File exists (os error 17)"
  | .notDirectory => "Not a directory (os error 20)"
  | .isDirectory => "Is a directory (os error 21)"
  | .busy => "Device or resource busy (os error 16)"
  | .nameTooLong => "File name too long (os error 36)"
  | .zeroInName => "file name contained an unexpected NUL byte"
  | .invalidArgument => "Invalid argument (os error 22)"
  | .notText => "stream did not contain valid UTF-8"
  | .other reason => reason

/-- A new file in a directory, under a name of its own, for contents that are not complete yet. -/
structure Draft where
  directory : Path
  name : String

/-- Access to files. -/
structure Files (m : Type → Type) where
  /-- The contents of a file. -/
  read : Path → m (Except FileError ByteArray)
  /-- Whether there is a file or directory at a path. -/
  present : Path → m Bool
  /-- Whether there is a directory at a path. -/
  isDirectory : Path → m Bool
  /-- Makes one directory. -/
  createDirectory : Path → m (Except FileError Unit)
  /-- Writes a file in place, whatever it held before. -/
  write : Path → ByteArray → m (Except FileError Unit)
  /-- Makes an empty draft in a directory. -/
  createDraft : (directory : Path) → m (Except FileError Draft)
  /-- Writes the contents of a draft. -/
  fill : Draft → ByteArray → m (Except FileError Unit)
  /-- Moves a draft to a path in one step, in the place of a file that is there. -/
  publish : Draft → Path → m (Except FileError Unit)
  /-- Removes a draft. -/
  discard : Draft → m Unit

namespace Files

variable {m : Type → Type} [Monad m]

/-- The text that the contents of a file are. -/
def textOf (contents : ByteArray) : Except FileError String :=
  match String.fromUTF8? contents with
  | some text => .ok text
  | none => .error .notText

/-- The contents of a text file. -/
def readText (files : Files m) (path : Path) : m (Except FileError String) := do
  match ← files.read path with
  | .ok contents => return textOf contents
  | .error e => return .error e

/-- The outcome of making a directory that may be there already. -/
def allowDirectory (files : Files m) (path : Path) (e : FileError) : m (Except FileError Unit) := do
  return if ← files.isDirectory path then .ok () else .error e

/-- Makes the first of the directories, given longest first; those after it are made when they are missing. -/
def createMissing (files : Files m) : List Path → m (Except FileError Unit)
  | [] => return .ok ()
  | path :: above => do
    match ← files.createDirectory path with
    | .ok () => return .ok ()
    | .error .notFound =>
      match ← createMissing files above with
      | .error e => return .error e
      | .ok () =>
        match ← files.createDirectory path with
        | .ok () => return .ok ()
        | .error e => allowDirectory files path e
    | .error e => allowDirectory files path e

/-- Makes a directory and all that are missing above it. -/
def createDirectories (files : Files m) (path : Path) : m (Except FileError Unit) :=
  files.createMissing path.ancestors

/-- Writes a draft in a directory and moves it to a path. A draft that does not get there is removed. -/
def replace (files : Files m) (directory path : Path) (contents : ByteArray) : m (Except FileError Unit) := do
  match ← files.createDraft directory with
  | .error e => return .error e
  | .ok draft =>
    match ← files.fill draft contents with
    | .error e =>
      files.discard draft
      return .error e
    | .ok () =>
      match ← files.publish draft path with
      | .error e =>
        files.discard draft
        return .error e
      | .ok () => return .ok ()

/-- Access to the files of a part of a larger state. -/
def lift {n : Type → Type} (files : Files m) (up : {α : Type} → m α → n α) : Files n where
  read path := up (files.read path)
  present path := up (files.present path)
  isDirectory path := up (files.isDirectory path)
  createDirectory path := up (files.createDirectory path)
  write path contents := up (files.write path contents)
  createDraft directory := up (files.createDraft directory)
  fill draft contents := up (files.fill draft contents)
  publish draft path := up (files.publish draft path)
  discard draft := up (files.discard draft)

end Files

end Allotment
