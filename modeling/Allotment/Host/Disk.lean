import Allotment.Files.Basic

/-!
# Files on disk

The access to files that the operating system gives.
-/

namespace Allotment.Disk

/-- The number that the operating system gives an error, and its description. -/
def systemError? : IO.Error → Option (UInt32 × String)
  | .alreadyExists _ code details => some (code, details)
  | .otherError code details => some (code, details)
  | .resourceBusy code details => some (code, details)
  | .resourceVanished code details => some (code, details)
  | .unsupportedOperation code details => some (code, details)
  | .hardwareFault code details => some (code, details)
  | .unsatisfiedConstraints code details => some (code, details)
  | .illegalOperation code details => some (code, details)
  | .protocolError code details => some (code, details)
  | .timeExpired code details => some (code, details)
  | .interrupted _ code details => some (code, details)
  | .noFileOrDirectory _ code details => some (code, details)
  | .invalidArgument _ code details => some (code, details)
  | .permissionDenied _ code details => some (code, details)
  | .resourceExhausted _ code details => some (code, details)
  | .inappropriateType _ code details => some (code, details)
  | .noSuchThing _ code details => some (code, details)
  | .unexpectedEof => none
  | .userError _ => none

/-- The number of an error, which some operations give with a minus sign. -/
def plainCode (code : UInt32) : UInt32 := min code (0 - code)

/-- Why an operation failed. -/
def fileError (e : IO.Error) : FileError :=
  match systemError? e with
  | none => .other (toString e)
  | some (code, details) =>
    match (plainCode code).toNat with
    | 2 => .notFound
    | 16 => .busy
    | 17 => .alreadyExists
    | 20 => .notDirectory
    | 21 => .isDirectory
    | 22 => .invalidArgument
    | 36 => .nameTooLong
    | number => .other (details.capitalize ++ " (os error " ++ toString number ++ ")")

/-- The outcome of an operation. -/
def outcome (act : IO α) : IO (Except FileError α) := do
  try return .ok (← act) catch e => return .error (fileError e)

/-- The answer to a question, which is no if the operation fails. -/
def holds (act : IO Bool) : IO Bool := do
  try act catch _ => return false

/-- Does something with a path that holds no zero character. -/
def withName (path : Path) (act : String → IO α) : IO (Except FileError α) :=
  if path.holdsZero then return .error .zeroInName else outcome (act path.text)

/-- The path of a draft. -/
def draftPath (draft : Draft) : Path := draft.directory.join ⟨draft.name⟩

/-- Makes an empty draft under a name that is not taken. -/
def createDraft (directory : Path) : IO Draft := do
  let draft : Draft := ⟨directory, ".tmp" ++ toString (← IO.rand 100000 999999)⟩
  let _ ← IO.FS.Handle.mk (draftPath draft).text .writeNew
  return draft

/-- The access to files that the operating system gives. -/
def files : Files IO where
  read path := withName path fun name => IO.FS.readBinFile name
  present path := holds do
    let place ← IO.FS.realPath path.text
    place.pathExists
  isDirectory path := holds do
    let place ← IO.FS.realPath path.text
    place.isDir
  createDirectory path := withName path fun name => IO.FS.createDir name
  write path contents := withName path fun name => IO.FS.writeBinFile name contents
  createDraft directory := withName directory fun _ => createDraft directory
  fill draft contents := outcome (IO.FS.writeBinFile (draftPath draft).text contents)
  publish draft path :=
    if path.holdsZero then return .error .invalidArgument
    else outcome (IO.FS.rename (draftPath draft).text path.text)
  discard draft := do
    let _ ← outcome (IO.FS.removeFile (draftPath draft).text)

end Allotment.Disk
