import Allotment.Proofs.Files.Tree

/-!
# Directories that are made, and files that are written in place

A directory is made where a path names it and nothing is (`directoryPlace_eq_ok_iff`), and a file is written where no
directory is (`writePlace_eq_ok_iff`). Once the directories above a path have been made they are there, and making them
again changes nothing (`createMissing_again`). A file that was written in place is read there, and can be written at the
same place again (`read_of_writePlace`, `writePlace_again`).
-/

namespace Allotment.FileTree

variable {tree tree' : FileTree}

/-! ## Directories -/

theorem isDirectory_iff {path : Path} :
    tree.isDirectory path = true ↔ ∃ place, tree.resolve path = .ok (place, .directory) := by
  unfold isDirectory
  constructor
  · intro there
    split at there
    case h_1 place resolved => exact ⟨place, resolved⟩
    case h_2 => cases there
  · rintro ⟨place, resolved⟩
    rw [resolved]

theorem isDirectory_of_keeps (keeps : Keeps tree tree') {path : Path} (there : tree.isDirectory path = true) :
    tree'.isDirectory path = true := by
  obtain ⟨place, resolved⟩ := isDirectory_iff.mp there
  exact isDirectory_iff.mpr ⟨place, resolve_of_keeps keeps resolved⟩

/-- A directory is made where a path names it and nothing is. -/
theorem directoryPlace_eq_ok_iff {path : Path} {place : Location} :
    tree.directoryPlace path = .ok place ↔
      ∃ parent name slash, tree.target path = .ok (.named parent name slash) ∧ child parent name = .ok place ∧
        tree.find? place = none := by
  rw [directoryPlace, bind_eq_ok_iff]
  constructor
  · rintro ⟨target, leads, makes⟩
    cases target with
    | unnamed there => cases makes
    | named parent name slash =>
      obtain ⟨there, named, makes⟩ := bind_eq_ok_iff.mp makes
      cases free : tree.find? there with
      | some entry => rw [free] at makes; cases makes
      | none =>
        rw [free] at makes
        cases makes
        exact ⟨parent, name, slash, leads, named, free⟩
  · rintro ⟨parent, name, slash, leads, named, free⟩
    refine ⟨_, leads, ?_⟩
    dsimp only
    rw [named, ok_bind, free]
    rfl

/-- No directory is made where there is one. -/
theorem directoryPlace_of_isDirectory {path : Path} (there : tree.isDirectory path = true) :
    tree.directoryPlace path = .error .alreadyExists := by
  obtain ⟨place, resolved⟩ := isDirectory_iff.mp there
  rcases resolve_eq_ok_iff.mp resolved with ⟨leads, -⟩ | ⟨parent, name, slash, leads, named, held, -⟩
  · rw [directoryPlace, leads]
    rfl
  · rw [directoryPlace, leads, ok_bind]
    dsimp only
    rw [named, ok_bind, held]
    rfl

/-- A directory that is made at a path is there. -/
theorem isDirectory_of_directoryPlace {path : Path} {place : Location} (made : tree.directoryPlace path = .ok place) :
    (tree.insert place .directory).isDirectory path = true := by
  obtain ⟨parent, name, slash, leads, named, free⟩ := directoryPlace_eq_ok_iff.mp made
  have leads := target_of_keeps (keeps_insert (by rw [free]; exact nofun) .directory) leads
  have found := find?_insert_self tree (ne_nil_of_child named) .directory
  exact isDirectory_iff.mpr ⟨place, resolve_eq_ok_iff.mpr (.inr ⟨parent, name, slash, leads, named, found, fun _ => rfl⟩)⟩

theorem createDirectory_eq (tree : FileTree) (path : Path) :
    files.createDirectory path tree = tree.put (tree.directoryPlace path) .directory := rfl

theorem allowDirectory_eq (tree : FileTree) (path : Path) (e : FileError) :
    files.allowDirectory path e tree = (if tree.isDirectory path then .ok () else .error e, tree) := rfl

/-- Making a directory that is there changes nothing. -/
theorem createMissing_of_isDirectory {path : Path} (above : List Path) (there : tree.isDirectory path = true) :
    files.createMissing (path :: above) tree = (.ok (), tree) := by
  simp only [Files.createMissing, bind, StateT.bind, createDirectory_eq, directoryPlace_of_isDirectory there, put]
  rw [allowDirectory_eq, if_pos there]

theorem isDirectory_of_allowDirectory {path : Path} {e : FileError}
    (allowed : files.allowDirectory path e tree = (.ok (), tree')) : tree'.isDirectory path = true := by
  rw [allowDirectory_eq] at allowed
  obtain ⟨outcome, rfl⟩ := Prod.mk.inj allowed
  split at outcome
  case isTrue there => exact there
  case isFalse => cases outcome

/-- The first of the directories is there once they have been made. -/
theorem isDirectory_of_createMissing {path : Path} {above : List Path}
    (made : files.createMissing (path :: above) tree = (.ok (), tree')) : tree'.isDirectory path = true := by
  simp only [Files.createMissing, bind, StateT.bind, createDirectory_eq] at made
  cases free : tree.directoryPlace path with
  | ok place =>
    rw [free] at made
    cases made
    exact isDirectory_of_directoryPlace free
  | error e =>
    rw [free] at made
    cases e with
    | notFound =>
      simp only [put, StateT.bind, bind] at made
      generalize files.createMissing above tree = rest at made
      obtain ⟨outcome, between⟩ := rest
      cases outcome with
      | error e => cases made
      | ok _ =>
        simp only [StateT.bind, bind, createDirectory_eq] at made
        cases free : between.directoryPlace path with
        | ok place =>
          rw [free] at made
          cases made
          exact isDirectory_of_directoryPlace free
        | error e =>
          rw [free] at made
          exact isDirectory_of_allowDirectory made
    | _ => exact isDirectory_of_allowDirectory made

/-- **Directories are made once**: making them again changes nothing, as long as directories stay. -/
theorem createMissing_again {paths : List Path} {later : FileTree}
    (made : files.createMissing paths tree = (.ok (), tree')) (keeps : Keeps tree' later) :
    files.createMissing paths later = (.ok (), later) := by
  cases paths with
  | nil => rfl
  | cons path above =>
    exact createMissing_of_isDirectory above (isDirectory_of_keeps keeps (isDirectory_of_createMissing made))

/-! ## Files written in place -/

/-- A file can be written at a place just if the path names it and no directory is there. -/
theorem writePlace_eq_ok_iff {path : Path} {place : Location} :
    tree.writePlace path = .ok place ↔
      ∃ parent name, tree.target path = .ok (.named parent name false) ∧ child parent name = .ok place ∧
        tree.find? place ≠ some .directory := by
  have noDirectory {there : Location} :
      ¬(tree.find? there).any Entry.isDirectory = true ↔ tree.find? there ≠ some .directory := by
    cases tree.find? there with
    | none => simp
    | some entry => cases entry <;> simp [Entry.isDirectory]
  rw [writePlace, bind_eq_ok_iff]
  constructor
  · rintro ⟨target, leads, writes⟩
    cases target with
    | unnamed place => cases writes
    | named parent name slash =>
      simp only [check_eq_ok_iff, bind_eq_ok_iff, noDirectory] at writes
      obtain ⟨noSlash, place', named, free, ⟨⟩⟩ := writes
      rw [Bool.not_eq_true] at noSlash
      exact ⟨parent, name, noSlash ▸ leads, named, free⟩
  · rintro ⟨parent, name, leads, named, free⟩
    refine ⟨_, leads, ?_⟩
    simp only [check_eq_ok_iff, bind_eq_ok_iff, noDirectory]
    exact ⟨Bool.false_ne_true, place, named, free, rfl⟩

section Written

variable {path : Path} {place : Location} (writes : tree.writePlace path = .ok place) (contents : ByteArray)
include writes

theorem keeps_of_writePlace : Keeps tree (tree.insert place (.file contents)) := by
  obtain ⟨-, -, -, -, free⟩ := writePlace_eq_ok_iff.mp writes
  exact keeps_insert free _

/-- **What was written to a path is read there.** -/
theorem read_of_writePlace : (tree.insert place (.file contents)).read path = .ok contents := by
  obtain ⟨parent, name, leads, named, free⟩ := writePlace_eq_ok_iff.mp writes
  rw [read, resolve_insert_named leads named free]
  rfl

/-- A file that was written can be written again at the same place. -/
theorem writePlace_again : (tree.insert place (.file contents)).writePlace path = .ok place := by
  have keeps := keeps_of_writePlace writes contents
  obtain ⟨parent, name, leads, named, free⟩ := writePlace_eq_ok_iff.mp writes
  refine writePlace_eq_ok_iff.mpr ⟨parent, name, target_of_keeps keeps leads, named, ?_⟩
  rw [find?_insert_self tree (ne_nil_of_child named)]
  exact nofun

end Written

end Allotment.FileTree
