import Allotment.Files.Basic

/-!
# A tree of files

Files and directories by their place, which is the list of names from the root. Paths are resolved step by step: every
directory on the way must be there. `FileTree.files` gives the access to files that the tree answers.
-/

namespace Allotment

/-- The names from the root to a file or directory. -/
abbrev Location := List String

/-- What is at a place. -/
inductive Entry where
  | file (contents : ByteArray)
  | directory

/-- Whether a directory is there. -/
def Entry.isDirectory : Entry → Bool
  | .directory => true
  | .file _ => false

/-- The files and directories below the root, and the directory that relative paths start in. -/
structure FileTree where
  entries : List (Location × Entry)
  current : Location

namespace FileTree

/-- What is at a place; the root is always a directory. -/
def find? (tree : FileTree) (place : Location) : Option Entry :=
  if place = [] then some .directory else tree.entries.lookup place

/-- The tree with an entry put at a place. -/
def insert (tree : FileTree) (place : Location) (entry : Entry) : FileTree :=
  { tree with entries := (place, entry) :: tree.entries.filter (·.1 != place) }

/-- The tree with nothing at a place. -/
def erase (tree : FileTree) (place : Location) : FileTree :=
  { tree with entries := tree.entries.filter (·.1 != place) }

/-! ## Resolving paths -/

/-- The place of a name in a directory. -/
def child (directory : Location) (name : String) : Except FileError Location :=
  if 255 < name.utf8ByteSize then .error .nameTooLong else .ok (directory ++ [name])

/-- One step from a directory into another. -/
def enter (tree : FileTree) (place : Location) (piece : String) : Except FileError Location := do
  if piece = "." then return place
  if piece = ".." then return place.dropLast
  let place ← child place piece
  match tree.find? place with
  | none => throw .notFound
  | some (.file _) => throw .notDirectory
  | some .directory => return place

/-- Where a path leads before its last piece is looked at. -/
inductive Target where
  /-- To a directory that the path does not name: the root, or by a step in place or up. -/
  | unnamed (place : Location)
  /-- To a name in a directory; `slash` tells whether a slash follows the name. -/
  | named (directory : Location) (name : String) (slash : Bool)

/-- Where a path leads. -/
def target (tree : FileTree) (path : Path) : Except FileError Target := do
  if path.holdsZero then throw .zeroInName
  if path.text.isEmpty then throw .notFound
  if 4096 ≤ path.text.utf8ByteSize then throw .nameTooLong
  let start := if path.isAbsolute then [] else tree.current
  match path.pieces.getLast? with
  | none => return .unnamed start
  | some last =>
    let directory ← path.pieces.dropLast.foldlM tree.enter start
    if last = "." || last = ".." then return .unnamed (← tree.enter directory last)
    return .named directory last path.endsInSlash

/-- What is at a path, and its place. -/
def resolve (tree : FileTree) (path : Path) : Except FileError (Location × Entry) := do
  match ← tree.target path with
  | .unnamed place => return (place, .directory)
  | .named directory name slash =>
    let place ← child directory name
    match tree.find? place with
    | none => throw .notFound
    | some (.file contents) => if slash then throw .notDirectory else return (place, .file contents)
    | some .directory => return (place, .directory)

/-- Whether a path leads to something. -/
def present (tree : FileTree) (path : Path) : Bool :=
  (tree.resolve path).isOk

/-- Whether a path leads to a directory. -/
def isDirectory (tree : FileTree) (path : Path) : Bool :=
  match tree.resolve path with
  | .ok (_, .directory) => true
  | _ => false

/-! ## Operations -/

/-- The contents of the file at a path. -/
def read (tree : FileTree) (path : Path) : Except FileError ByteArray := do
  match ← tree.resolve path with
  | (_, .file contents) => return contents
  | (_, .directory) => throw .isDirectory

/-- The place of the directory that is made at a path. -/
def directoryPlace (tree : FileTree) (path : Path) : Except FileError Location := do
  match ← tree.target path with
  | .unnamed _ => throw .alreadyExists
  | .named directory name _ =>
    let place ← child directory name
    match tree.find? place with
    | some _ => throw .alreadyExists
    | none => return place

/-- The place of the file that is written at a path. -/
def writePlace (tree : FileTree) (path : Path) : Except FileError Location := do
  match ← tree.target path with
  | .unnamed _ => throw .isDirectory
  | .named directory name slash =>
    if slash then throw .isDirectory
    let place ← child directory name
    if (tree.find? place).any Entry.isDirectory then throw .isDirectory
    return place

/-- The name with a number that a draft may have. -/
def draftName (number : Nat) : String := ".tmp" ++ toString number

/-- The first name from a number on that is free in a directory, if there is one among `count` names. -/
def freeName? (tree : FileTree) (directory : Location) : (count number : Nat) → Option String
  | 0, _ => none
  | count + 1, number =>
    if (tree.find? (directory ++ [draftName number])).isNone then some (draftName number)
    else freeName? tree directory count (number + 1)

/-- How many names are tried for a draft. -/
def draftTries : Nat := 65536

/-- A draft in a directory, and the place where it is made. -/
def newDraft (tree : FileTree) (directory : Path) : Except FileError (Draft × Location) := do
  match ← tree.resolve directory with
  | (_, .file _) => throw .notDirectory
  | (place, .directory) =>
    match tree.freeName? place draftTries 0 with
    | none => throw .alreadyExists
    | some name => return (⟨directory, name⟩, place ++ [name])

/-- The place and the contents of a draft. -/
def findDraft (tree : FileTree) (draft : Draft) : Except FileError (Location × ByteArray) := do
  match ← tree.resolve draft.directory with
  | (_, .file _) => throw .notDirectory
  | (place, .directory) =>
    match tree.find? (place ++ [draft.name]) with
    | none => throw .notFound
    | some .directory => throw .isDirectory
    | some (.file contents) => return (place ++ [draft.name], contents)

/-- The place of a file that is moved to a path. -/
def movePlace (tree : FileTree) (path : Path) : Except FileError Location := do
  if path.holdsZero then throw .invalidArgument
  match ← tree.target path with
  | .unnamed _ => throw .busy
  | .named directory name slash =>
    let place ← child directory name
    if slash then throw .notDirectory
    if (tree.find? place).any Entry.isDirectory then throw .isDirectory
    return place

/-- Puts an entry at the place found, or leaves the tree as it is. -/
def put (tree : FileTree) (place : Except FileError Location) (entry : Entry) : Except FileError Unit × FileTree :=
  match place with
  | .ok place => (.ok (), tree.insert place entry)
  | .error e => (.error e, tree)

/-- Makes an empty draft. -/
def createDraft (tree : FileTree) (directory : Path) : Except FileError Draft × FileTree :=
  match tree.newDraft directory with
  | .ok (draft, place) => (.ok draft, tree.insert place (.file ByteArray.empty))
  | .error e => (.error e, tree)

/-- Moves a draft to a path, which is looked up without the draft: no path is meant to lead by way of it. -/
def publish (tree : FileTree) (draft : Draft) (path : Path) : Except FileError Unit × FileTree :=
  match tree.findDraft draft with
  | .error e => (.error e, tree)
  | .ok (place, contents) =>
    match (tree.erase place).movePlace path with
    | .error e => (.error e, tree)
    | .ok there => (.ok (), (tree.erase place).insert there (.file contents))

/-- The tree without a draft. -/
def discard (tree : FileTree) (draft : Draft) : FileTree :=
  match tree.findDraft draft with
  | .ok (place, _) => tree.erase place
  | .error _ => tree

/-- The access to files that a tree in the state answers. An operation fails only because of what is in the tree: a file
is written as a whole, and nothing is refused for want of permission or room. -/
def files : Files (StateM FileTree) where
  read path := fun tree => (tree.read path, tree)
  present path := fun tree => (tree.present path, tree)
  isDirectory path := fun tree => (tree.isDirectory path, tree)
  createDirectory path := fun tree => tree.put (tree.directoryPlace path) .directory
  write path contents := fun tree => tree.put (tree.writePlace path) (.file contents)
  createDraft directory := fun tree => tree.createDraft directory
  fill draft contents := fun tree => tree.put ((tree.findDraft draft).map (·.1)) (.file contents)
  publish draft path := fun tree => tree.publish draft path
  discard draft := fun tree => ((), tree.discard draft)

end FileTree

end Allotment
