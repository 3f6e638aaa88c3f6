import Allotment.Files.Tree
import Allotment.Proofs.Entries
import Allotment.Proofs.Outcome

/-!
# What was moved to a path is found there

Where a path leads and what is found there is told once and for all (`target_eq_ok_iff`, `resolve_eq_ok_iff`). A path
leads where it led as long as the directories stay (`target_of_keeps`), and a file never takes the place of a
directory. So the file that is moved to a path is what is read at that path (`read_of_movePlace`). A draft is made at a
place that was free, is found by its name, and is gone without a trace once it is removed (`findDraft_newDraft`,
`erase_insert`); so a file is written by way of a draft or not at all (`replace_eq`).
-/

namespace Allotment.FileTree

/-! ## Entries -/

/-- An entry that was put at a place is found there. -/
theorem find?_insert_self (tree : FileTree) {place : Location} (below : place ≠ []) (entry : Entry) :
    (tree.insert place entry).find? place = some entry := by
  rw [find?, if_neg below, insert, List.lookup_cons_self]

/-- An entry that was put at a place changes nothing elsewhere. -/
theorem find?_insert_of_ne (tree : FileTree) {place place' : Location} (other : place' ≠ place) (entry : Entry) :
    (tree.insert place entry).find? place' = tree.find? place' := by
  have passed : (place' == place) = false := by simpa using other
  rw [find?, find?, insert, List.lookup_cons, passed, lookup_filter_ne other]

/-- Nothing is found where an entry was taken away. -/
theorem find?_erase_self (tree : FileTree) {place : Location} (below : place ≠ []) :
    (tree.erase place).find? place = none := by
  rw [find?, if_neg below, erase, List.lookup_eq_none_iff]
  intro entry mem
  simpa [bne, BEq.comm] using (List.mem_filter.mp mem).2

/-- An entry that was taken away changes nothing elsewhere. -/
theorem find?_erase_of_ne (tree : FileTree) {place place' : Location} (other : place' ≠ place) :
    (tree.erase place).find? place' = tree.find? place' := by
  rw [find?, find?, erase, lookup_filter_ne other]

theorem erase_eq_self {tree : FileTree} {place : Location} (below : place ≠ []) (free : tree.find? place = none) :
    tree.erase place = tree := by
  rw [find?, if_neg below] at free
  rw [erase, filter_ne_of_lookup free]

theorem erase_insert_self (tree : FileTree) (place : Location) (entry : Entry) :
    (tree.insert place entry).erase place = tree.erase place := by
  simp [insert, erase]

/-- What was put at a free place and taken away again leaves no trace. -/
theorem erase_insert {tree : FileTree} {place : Location} (below : place ≠ []) (free : tree.find? place = none)
    (entry : Entry) : (tree.insert place entry).erase place = tree := by
  rw [erase_insert_self, erase_eq_self below free]

/-- Of two entries that are put at one place the later stays. -/
theorem insert_insert (tree : FileTree) (place : Location) (entry later : Entry) :
    (tree.insert place entry).insert place later = tree.insert place later := by
  simp [insert]

/-! ## Directories stay -/

/-- All directories are where they were. -/
structure Keeps (tree tree' : FileTree) : Prop where
  current : tree'.current = tree.current
  directory {place : Location} : tree.find? place = some .directory → tree'.find? place = some .directory

theorem Keeps.refl (tree : FileTree) : Keeps tree tree := ⟨rfl, id⟩

theorem Keeps.trans {first middle last : FileTree} (earlier : Keeps first middle) (later : Keeps middle last) :
    Keeps first last :=
  ⟨later.current.trans earlier.current, later.directory ∘ earlier.directory⟩

/-- What is put where no directory is leaves all directories. -/
theorem keeps_insert {tree : FileTree} {place : Location} (free : tree.find? place ≠ some .directory) (entry : Entry) :
    Keeps tree (tree.insert place entry) where
  current := rfl
  directory {place'} found := by
    have other : place' ≠ place := by
      rintro rfl
      exact free found
    rw [find?_insert_of_ne tree other, found]

variable {tree tree' : FileTree}

theorem enter_of_keeps (keeps : Keeps tree tree') {place there : Location} {piece : String}
    (entered : tree.enter place piece = .ok there) : tree'.enter place piece = .ok there := by
  unfold enter at entered ⊢
  split
  case isTrue here => rwa [if_pos here] at entered
  case isFalse away =>
    rw [if_neg away] at entered
    split
    case isTrue up => rwa [if_pos up] at entered
    case isFalse down =>
      rw [if_neg down] at entered
      obtain ⟨held, named, found⟩ := bind_eq_ok_iff.mp entered
      rw [named, ok_bind]
      cases entry : tree.find? held with
      | none => rw [entry] at found; cases found
      | some entry' =>
        cases entry' with
        | file contents => rw [entry] at found; cases found
        | directory =>
          rw [entry] at found
          rwa [keeps.directory entry]

theorem foldlM_enter_of_keeps (keeps : Keeps tree tree') {place there : Location} {pieces : List String}
    (entered : pieces.foldlM tree.enter place = .ok there) : pieces.foldlM tree'.enter place = .ok there := by
  induction pieces generalizing place with
  | nil => exact entered
  | cons piece pieces ih =>
    rw [List.foldlM_cons] at entered ⊢
    obtain ⟨next, first, others⟩ := bind_eq_ok_iff.mp entered
    rw [enter_of_keeps keeps first, ok_bind]
    exact ih others

/-- Where a path leads, told by its pieces: those before the last one lead to a directory, and the last one is a step
from there or a name in it. -/
theorem target_eq_ok_iff {path : Path} {target : Target} :
    tree.target path = .ok target ↔
      (¬path.holdsZero ∧ ¬path.text.isEmpty ∧ ¬4096 ≤ path.text.utf8ByteSize) ∧
      (path.pieces = [] ∧ target = .unnamed (if path.isAbsolute then [] else tree.current) ∨
        ∃ front last directory, path.pieces = front ++ [last] ∧
          front.foldlM tree.enter (if path.isAbsolute then [] else tree.current) = .ok directory ∧
          ((last = "." ∨ last = "..") ∧ (∃ place, tree.enter directory last = .ok place ∧ target = .unnamed place) ∨
            ¬(last = "." ∨ last = "..") ∧ target = .named directory last path.endsInSlash)) := by
  simp only [FileTree.target, check_eq_ok_iff, and_assoc]
  refine and_congr_right fun _ => and_congr_right fun _ => and_congr_right fun _ => ?_
  rcases List.eq_nil_or_concat' path.pieces with none | ⟨front, last, pieces⟩
  · rw [none]
    constructor
    · exact fun leads => .inl ⟨rfl, (Except.ok.inj leads).symm⟩
    · rintro (⟨-, rfl⟩ | ⟨front, last, directory, whole, -⟩)
      · rfl
      · simp at whole
  · rw [pieces, List.getLast?_concat, List.dropLast_concat]
    dsimp only
    rw [bind_eq_ok_iff]
    constructor
    · rintro ⟨directory, walked, leads⟩
      refine .inr ⟨front, last, directory, rfl, walked, ?_⟩
      by_cases step : last = "." ∨ last = ".."
      · rw [if_pos (by simpa using step)] at leads
        obtain ⟨place, entered, ⟨⟩⟩ := bind_eq_ok_iff.mp leads
        exact .inl ⟨step, place, entered, rfl⟩
      · rw [if_neg (by simpa using step)] at leads
        exact .inr ⟨step, (Except.ok.inj leads).symm⟩
    · rintro (⟨whole, -⟩ | ⟨front', last', directory, whole, walked, leads⟩)
      · simp at whole
      · obtain ⟨rfl, ⟨⟩⟩ := List.append_inj' whole rfl
        refine ⟨directory, walked, ?_⟩
        rcases leads with ⟨step, place, entered, rfl⟩ | ⟨name, rfl⟩
        · rw [if_pos (by simpa using step), entered]
          rfl
        · rw [if_neg (by simpa using name)]
          rfl

/-- A path leads where it led. -/
theorem target_of_keeps (keeps : Keeps tree tree') {path : Path} {target : Target}
    (leads : tree.target path = .ok target) : tree'.target path = .ok target := by
  rw [target_eq_ok_iff] at leads ⊢
  rw [keeps.current]
  obtain ⟨sound, none | ⟨front, last, directory, pieces, walked, ends⟩⟩ := leads
  · exact ⟨sound, .inl none⟩
  · refine ⟨sound, .inr ⟨front, last, directory, pieces, foldlM_enter_of_keeps keeps walked, ?_⟩⟩
    rcases ends with ⟨step, place, entered, given⟩ | name
    · exact .inl ⟨step, place, enter_of_keeps keeps entered, given⟩
    · exact .inr name

/-- What a path leads to: a directory that it does not name, or what is at the place that it names. Only a directory
is found at a name with a slash behind it. -/
theorem resolve_eq_ok_iff {path : Path} {place : Location} {entry : Entry} :
    tree.resolve path = .ok (place, entry) ↔
      tree.target path = .ok (.unnamed place) ∧ entry = .directory ∨
      ∃ parent name slash, tree.target path = .ok (.named parent name slash) ∧ child parent name = .ok place ∧
        tree.find? place = some entry ∧ (slash = true → entry = .directory) := by
  rw [resolve, bind_eq_ok_iff]
  constructor
  · rintro ⟨target, leads, found⟩
    cases target with
    | unnamed there =>
      cases found
      exact .inl ⟨leads, rfl⟩
    | named parent name slash =>
      obtain ⟨there, named, found⟩ := bind_eq_ok_iff.mp found
      cases held : tree.find? there with
      | none => rw [held] at found; cases found
      | some entry' =>
        rw [held] at found
        cases entry' with
        | directory =>
          cases found
          exact .inr ⟨parent, name, slash, leads, named, held, fun _ => rfl⟩
        | file contents =>
          cases slash with
          | true => cases found
          | false =>
            cases found
            exact .inr ⟨parent, name, false, leads, named, held, nofun⟩
  · rintro (⟨leads, rfl⟩ | ⟨parent, name, slash, leads, named, held, trailing⟩)
    · exact ⟨_, leads, rfl⟩
    · refine ⟨_, leads, ?_⟩
      dsimp only
      rw [named, ok_bind, held]
      cases entry with
      | directory => rfl
      | file contents =>
        cases slash with
        | true => cases trailing rfl
        | false => rfl

/-- A directory is found at its path as before. -/
theorem resolve_of_keeps (keeps : Keeps tree tree') {path : Path} {place : Location}
    (resolved : tree.resolve path = .ok (place, .directory)) : tree'.resolve path = .ok (place, .directory) := by
  rw [resolve_eq_ok_iff] at resolved ⊢
  rcases resolved with ⟨leads, here⟩ | ⟨parent, name, slash, leads, named, held, trailing⟩
  · exact .inl ⟨target_of_keeps keeps leads, here⟩
  · exact .inr ⟨parent, name, slash, target_of_keeps keeps leads, named, keeps.directory held, trailing⟩

/-! ## Moving a file to a path -/

/-- A place that a file can be moved to is named by the path and holds no directory. -/
theorem movePlace_eq_ok {path : Path} {place : Location} (moves : tree.movePlace path = .ok place) :
    ∃ parent name, tree.target path = .ok (.named parent name false) ∧ child parent name = .ok place ∧
      tree.find? place ≠ some .directory := by
  simp only [movePlace, check_eq_ok_iff, bind_eq_ok_iff] at moves
  obtain ⟨-, target, leads, moves⟩ := moves
  cases target with
  | unnamed place => cases moves
  | named parent name slash =>
    simp only [check_eq_ok_iff, bind_eq_ok_iff] at moves
    obtain ⟨place', named, noSlash, noDirectory, ⟨⟩⟩ := moves
    rw [Bool.not_eq_true] at noSlash
    refine ⟨parent, name, noSlash ▸ leads, named, ?_⟩
    intro found
    rw [found] at noDirectory
    exact noDirectory rfl

theorem child_eq_ok {parent place : Location} {name : String} (named : child parent name = .ok place) :
    place = parent ++ [name] := by
  unfold child at named
  split at named
  case isTrue => cases named
  case isFalse => exact (Except.ok.inj named).symm

theorem ne_nil_of_child {parent place : Location} {name : String} (named : child parent name = .ok place) :
    place ≠ [] := by
  rw [child_eq_ok named]
  exact List.concat_ne_nil name parent

/-- A file that is put at the place that a path names is found there. -/
theorem resolve_insert_named {path : Path} {parent place : Location} {name : String}
    (leads : tree.target path = .ok (.named parent name false)) (named : child parent name = .ok place)
    (free : tree.find? place ≠ some .directory) (contents : ByteArray) :
    (tree.insert place (.file contents)).resolve path = .ok (place, .file contents) := by
  have leads := target_of_keeps (keeps_insert free (.file contents)) leads
  have found := find?_insert_self tree (ne_nil_of_child named) (.file contents)
  exact resolve_eq_ok_iff.mpr (.inr ⟨parent, name, false, leads, named, found, nofun⟩)

/-- **What was moved to a path is found there.** -/
theorem resolve_of_movePlace {path : Path} {place : Location} (moves : tree.movePlace path = .ok place)
    (contents : ByteArray) :
    (tree.insert place (.file contents)).resolve path = .ok (place, .file contents) := by
  obtain ⟨parent, name, leads, named, free⟩ := movePlace_eq_ok moves
  exact resolve_insert_named leads named free contents

/-- **What was moved to a path is read there.** -/
theorem read_of_movePlace {path : Path} {place : Location} (moves : tree.movePlace path = .ok place)
    (contents : ByteArray) : (tree.insert place (.file contents)).read path = .ok contents := by
  rw [read, resolve_of_movePlace moves]
  rfl

/-! ## Drafts -/

theorem freeName?_eq_some {directory : Location} {count number : Nat} {name : String}
    (found : tree.freeName? directory count number = some name) : tree.find? (directory ++ [name]) = none := by
  induction count generalizing number with
  | zero => cases found
  | succ count ih =>
    unfold freeName? at found
    split at found
    case isTrue free =>
      obtain rfl := Option.some.inj found
      exact Option.isNone_iff_eq_none.mp free
    case isFalse => exact ih found

/-- A draft is made in its directory, where nothing was. -/
theorem newDraft_eq_ok {directory : Path} {draft : Draft} {place : Location}
    (made : tree.newDraft directory = .ok (draft, place)) :
    ∃ above, tree.resolve draft.directory = .ok (above, .directory) ∧ place = above ++ [draft.name] ∧
      tree.find? place = none := by
  obtain ⟨⟨above, entry⟩, resolved, made⟩ := bind_eq_ok_iff.mp made
  cases entry with
  | file contents => cases made
  | directory =>
    dsimp only at made
    cases free : tree.freeName? above draftTries 0 with
    | none => rw [free] at made; cases made
    | some name =>
      rw [free] at made
      cases made
      exact ⟨above, resolved, rfl, freeName?_eq_some free⟩

theorem ne_nil_of_newDraft {directory : Path} {draft : Draft} {place : Location}
    (made : tree.newDraft directory = .ok (draft, place)) : place ≠ [] := by
  obtain ⟨above, -, rfl, -⟩ := newDraft_eq_ok made
  exact List.concat_ne_nil draft.name above

/-- A draft is found at its place, whatever was written to it. -/
theorem findDraft_newDraft {directory : Path} {draft : Draft} {place : Location}
    (made : tree.newDraft directory = .ok (draft, place)) (contents : ByteArray) :
    (tree.insert place (.file contents)).findDraft draft = .ok (place, contents) := by
  have below := ne_nil_of_newDraft made
  obtain ⟨above, resolved, rfl, free⟩ := newDraft_eq_ok made
  have keeps : Keeps tree (tree.insert (above ++ [draft.name]) (.file contents)) :=
    keeps_insert (by rw [free]; exact nofun) _
  have found := find?_insert_self tree below (.file contents)
  simp only [findDraft, resolve_of_keeps keeps resolved, ok_bind, found]
  rfl

section Draft

variable {directory : Path} {draft : Draft} {place : Location} (made : tree.newDraft directory = .ok (draft, place))
include made

theorem createDraft_newDraft :
    files.createDraft directory tree = (.ok draft, tree.insert place (.file ByteArray.empty)) := by
  show tree.createDraft directory = _
  rw [createDraft, made]

theorem fill_newDraft (contents contents' : ByteArray) :
    files.fill draft contents' (tree.insert place (.file contents)) =
      (.ok (), tree.insert place (.file contents')) := by
  show put _ _ _ = _
  rw [findDraft_newDraft made]
  exact Prod.ext rfl (insert_insert tree place _ _)

theorem publish_newDraft (contents : ByteArray) (path : Path) :
    files.publish draft path (tree.insert place (.file contents)) =
      match tree.movePlace path with
      | .error e => (.error e, tree.insert place (.file contents))
      | .ok there => (.ok (), tree.insert there (.file contents)) := by
  obtain ⟨above, -, rfl, free⟩ := newDraft_eq_ok made
  show publish _ _ _ = _
  rw [publish, findDraft_newDraft made]
  dsimp only
  rw [erase_insert (List.concat_ne_nil _ _) free]
  cases tree.movePlace path with
  | error e => rfl
  | ok there => rfl

theorem discard_newDraft (contents : ByteArray) :
    files.discard draft (tree.insert place (.file contents)) = ((), tree) := by
  obtain ⟨above, -, rfl, free⟩ := newDraft_eq_ok made
  show ((), discard _ _) = _
  rw [discard, findDraft_newDraft made]
  dsimp only
  rw [erase_insert (List.concat_ne_nil _ _) free]

end Draft

/-- **A file is written by way of a draft or not at all.** -/
theorem replace_eq (tree : FileTree) (directory path : Path) (contents : ByteArray) :
    files.replace directory path contents tree =
      match tree.newDraft directory with
      | .error e => (.error e, tree)
      | .ok _ =>
        match tree.movePlace path with
        | .error e => (.error e, tree)
        | .ok there => (.ok (), tree.insert there (.file contents)) := by
  cases made : tree.newDraft directory with
  | error e =>
    have created : files.createDraft directory tree = (.error e, tree) := by
      show tree.createDraft directory = _
      rw [createDraft, made]
    simp only [Files.replace, bind, StateT.bind, created]
    rfl
  | ok draft =>
    obtain ⟨draft, place⟩ := draft
    simp only [Files.replace, bind, StateT.bind, createDraft_newDraft made, fill_newDraft made, publish_newDraft made]
    cases tree.movePlace path with
    | error e =>
      simp only [StateT.bind, bind, discard_newDraft made]
      rfl
    | ok there => rfl

/-! ## Reading -/

/-- A file that can be read is there. -/
theorem present_of_read {path : Path} {contents : ByteArray} (found : tree.read path = .ok contents) :
    tree.present path = true := by
  obtain ⟨place, resolved, -⟩ := bind_eq_ok_iff.mp found
  rw [present, resolved]
  rfl

/-- Reading a text file changes nothing. -/
theorem readText_eq (tree : FileTree) (path : Path) :
    files.readText path tree = ((tree.read path).bind Files.textOf, tree) := by
  have read : files.read path tree = (tree.read path, tree) := rfl
  simp only [Files.readText, bind, StateT.bind, read]
  cases tree.read path with
  | ok contents => rfl
  | error e => rfl

end Allotment.FileTree
