import Allotment.Proofs.Files.Medium
import Allotment.Proofs.Files.Parent

/-!
# Trees in which everything stands in a directory

* A tree is `Rooted` if everything in it stands in a directory, and the current directory is there. Whatever is done
  with the files of such a tree, and whatever goes wrong, it stays so (`Medium.corresponding_rooted`).
* Where a path of a rooted tree led to nothing, no file is met when the directories above it have been made
  (`FileTree.find?_of_absent`), unless the path `Backtracks`: it steps up out of a directory that was not there before.
-/

namespace Allotment

namespace FileTree

/-! ## Rooted trees -/

/-- Everything stands in a directory, and the current directory is there. -/
structure Rooted (tree : FileTree) : Prop where
  current : tree.find? tree.current = some .directory
  around {place : Location} {entry : Entry} :
    tree.find? place = some entry → tree.find? place.dropLast = some .directory

/-- The directory that a path leads to, or that it names something in. -/
def Target.directory : Target → Location
  | .unnamed place => place
  | .named directory _ _ => directory

variable {tree tree' : FileTree}

section Leads

variable (rooted : Rooted tree)
include rooted

theorem find?_of_entered {place there : Location} {piece : String} (found : tree.find? place = some .directory)
    (entered : tree.enter place piece = .ok there) : tree.find? there = some .directory := by
  rcases enter_eq_ok entered with (rfl | rfl) | ⟨-, -, below⟩
  · obtain rfl : place = there := Except.ok.inj entered
    exact found
  · obtain rfl : place.dropLast = there := Except.ok.inj entered
    exact rooted.around found
  · exact below

/-- Pieces lead from a directory to a directory. -/
theorem find?_of_walked {place there : Location} {pieces : List String} (found : tree.find? place = some .directory)
    (walked : pieces.foldlM tree.enter place = .ok there) : tree.find? there = some .directory := by
  induction pieces generalizing place with
  | nil =>
    obtain rfl : place = there := Except.ok.inj walked
    exact found
  | cons piece pieces ih =>
    rw [List.foldlM_cons] at walked
    obtain ⟨next, entered, walked⟩ := bind_eq_ok_iff.mp walked
    exact ih (find?_of_entered rooted found entered) walked

theorem find?_start (path : Path) :
    tree.find? (if path.isAbsolute then [] else tree.current) = some .directory := by
  split
  case isTrue => exact if_pos rfl
  case isFalse => exact rooted.current

/-- A path leads into a directory. -/
theorem find?_of_target {path : Path} {target : Target} (leads : tree.target path = .ok target) :
    tree.find? target.directory = some .directory := by
  obtain ⟨-, ⟨-, rfl⟩ | ⟨front, last, directory, -, walked, ends⟩⟩ := target_eq_ok_iff.mp leads
  · exact find?_start rooted path
  · have there := find?_of_walked rooted (find?_start rooted path) walked
    rcases ends with ⟨-, place, entered, rfl⟩ | ⟨-, rfl⟩
    · exact find?_of_entered rooted there entered
    · exact there

/-- What a path leads to is at its place. -/
theorem find?_of_resolve {path : Path} {place : Location} {entry : Entry}
    (resolved : tree.resolve path = .ok (place, entry)) : tree.find? place = some entry := by
  rcases resolve_eq_ok_iff.mp resolved with ⟨leads, rfl⟩ | ⟨-, -, -, -, -, held, -⟩
  · exact find?_of_target rooted leads
  · exact held

/-! ## Operations -/

/-- What is put in a directory stands in one. -/
theorem rooted_insert {place : Location} (around : tree.find? place.dropLast = some .directory)
    (free : tree.find? place ≠ some .directory) (entry : Entry) : Rooted (tree.insert place entry) where
  current := (keeps_insert free entry).directory rooted.current
  around {place' entry'} found := by
    refine (keeps_insert free entry).directory ?_
    by_cases here : place' = place
    case pos =>
      rw [here]
      exact around
    case neg =>
      rw [find?_insert_of_ne tree here] at found
      exact rooted.around found

/-- What is put where a path names it stands in a directory. -/
theorem rooted_insert_named {path : Path} {parent place : Location} {name : String} {slash : Bool}
    (leads : tree.target path = .ok (.named parent name slash)) (named : child parent name = .ok place)
    (free : tree.find? place ≠ some .directory) (entry : Entry) : Rooted (tree.insert place entry) := by
  refine rooted_insert rooted ?_ free entry
  rw [child_eq_ok named, List.dropLast_concat]
  exact find?_of_target rooted leads

/-- A file that is taken away has nothing below it. -/
theorem rooted_erase {place : Location} {contents : ByteArray} (held : tree.find? place = some (.file contents)) :
    Rooted (tree.erase place) := by
  have below : place ≠ [] := by
    rintro rfl
    cases held
  have keeps : Keeps tree (tree.erase place) := by
    refine ⟨rfl, fun {place'} found => ?_⟩
    have other : place' ≠ place := by
      rintro rfl
      rw [held] at found
      cases found
    rw [find?_erase_of_ne tree other, found]
  refine ⟨keeps.directory rooted.current, fun {place' entry} found => keeps.directory ?_⟩
  by_cases here : place' = place
  case pos =>
    rw [here, find?_erase_self tree below] at found
    cases found
  case neg =>
    rw [find?_erase_of_ne tree here] at found
    exact rooted.around found

theorem rooted_put {place : Except FileError Location} {entry : Entry}
    (puts : ∀ there, place = .ok there → Rooted (tree.insert there entry)) : Rooted (tree.put place entry).2 := by
  cases place with
  | ok there => exact puts there rfl
  | error e => exact rooted

theorem rooted_createDirectory (path : Path) : Rooted (files.createDirectory path tree).2 := by
  refine rooted_put rooted fun place makes => ?_
  obtain ⟨parent, name, slash, leads, named, free⟩ := directoryPlace_eq_ok_iff.mp makes
  exact rooted_insert_named rooted leads named (by rw [free]; exact nofun) _

theorem rooted_write (path : Path) (contents : ByteArray) : Rooted (files.write path contents tree).2 := by
  refine rooted_put rooted fun place writes => ?_
  obtain ⟨parent, name, leads, named, free⟩ := writePlace_eq_ok_iff.mp writes
  exact rooted_insert_named rooted leads named free _

theorem rooted_createDraft (directory : Path) : Rooted (files.createDraft directory tree).2 := by
  show Rooted (tree.createDraft directory).2
  unfold createDraft
  cases made : tree.newDraft directory with
  | error e => exact rooted
  | ok draft =>
    obtain ⟨draft, place⟩ := draft
    obtain ⟨above, resolved, rfl, free⟩ := newDraft_eq_ok made
    refine rooted_insert rooted ?_ (by rw [free]; exact nofun) _
    rw [List.dropLast_concat]
    exact find?_of_resolve rooted resolved

omit rooted in
/-- A draft is a file. -/
theorem find?_of_findDraft {draft : Draft} {place : Location} {contents : ByteArray}
    (found : tree.findDraft draft = .ok (place, contents)) : tree.find? place = some (.file contents) := by
  obtain ⟨⟨above, entry⟩, -, found⟩ := bind_eq_ok_iff.mp found
  cases entry with
  | file contents => cases found
  | directory =>
    dsimp only at found
    cases held : tree.find? (above ++ [draft.name]) with
    | none => rw [held] at found; cases found
    | some entry =>
      rw [held] at found
      cases entry with
      | directory => cases found
      | file contents' =>
        cases found
        exact held

theorem rooted_fill (draft : Draft) (contents : ByteArray) : Rooted (files.fill draft contents tree).2 := by
  refine rooted_put rooted fun place fills => ?_
  obtain ⟨⟨there, contents'⟩, found, rfl⟩ := map_eq_ok_iff.mp fills
  have held := find?_of_findDraft found
  exact rooted_insert rooted (rooted.around held) (by rw [held]; exact nofun) _

theorem rooted_publish (draft : Draft) (path : Path) : Rooted (files.publish draft path tree).2 := by
  show Rooted (tree.publish draft path).2
  unfold publish
  cases found : tree.findDraft draft with
  | error e => exact rooted
  | ok held =>
    obtain ⟨place, contents⟩ := held
    have without := rooted_erase rooted (find?_of_findDraft found)
    dsimp only
    cases moves : (tree.erase place).movePlace path with
    | error e => exact rooted
    | ok there =>
      obtain ⟨parent, name, leads, named, free⟩ := movePlace_eq_ok moves
      exact rooted_insert_named without leads named free _

theorem rooted_discard (draft : Draft) : Rooted (files.discard draft tree).2 := by
  show Rooted (tree.discard draft)
  unfold discard
  cases found : tree.findDraft draft with
  | error e => exact rooted
  | ok held => exact rooted_erase rooted (find?_of_findDraft found)

end Leads

/-! ## Paths that led to nothing -/

/-- A path steps up out of a place where there is no directory. -/
def Backtracks (tree : FileTree) (path : Path) : Prop :=
  ∃ front back, path.pieces = front ++ ".." :: back ∧
    ∀ place, front.foldlM tree.enter (if path.isAbsolute then [] else tree.current) ≠ .ok place

theorem enter_of_child {place there : Location} {piece : String} (away : piece ≠ ".") (down : piece ≠ "..")
    (named : child place piece = .ok there) (found : tree.find? there = some .directory) :
    tree.enter place piece = .ok there := by
  rw [enter, if_neg away, if_neg down, named, ok_bind, found]
  rfl

/-- Pieces that lead to an old directory once more directories are there have led to it before, if all steps up were out
of directories that were there. -/
theorem walked_of_keeps (rooted : Rooted tree) (keeps : Keeps tree tree') {start place : Location} {pieces : List String}
    (forward : ∀ front back, pieces = front ++ ".." :: back → ∃ there, front.foldlM tree.enter start = .ok there)
    (walked : pieces.foldlM tree'.enter start = .ok place) (found : tree.find? place = some .directory) :
    pieces.foldlM tree.enter start = .ok place := by
  -- the last step tells where the steps before it have led: their end is a directory too, or they were out of one
  induction pieces using List.reverseRecOn generalizing place with
  | nil => exact walked
  | append_singleton front piece ih =>
    rw [List.foldlM_append] at walked
    obtain ⟨there, first, last⟩ := bind_eq_ok_iff.mp walked
    rw [List.foldlM_cons] at last
    obtain ⟨_, entered, ⟨⟩⟩ := bind_eq_ok_iff.mp last
    have before {there : Location} (first : front.foldlM tree'.enter start = .ok there)
        (found : tree.find? there = some .directory) : front.foldlM tree.enter start = .ok there := by
      refine ih ?_ first found
      intro front' back split
      exact forward front' (back ++ [piece]) (by rw [split, List.append_assoc, List.cons_append])
    suffices reached : front.foldlM tree.enter start = .ok there ∧ tree.enter there piece = .ok place by
      rw [List.foldlM_append, reached.1, ok_bind, List.foldlM_cons, reached.2]
      rfl
    rcases enter_eq_ok entered with (rfl | rfl) | ⟨⟨away, down⟩, named, -⟩
    · obtain rfl : there = place := Except.ok.inj entered
      exact ⟨before first found, rfl⟩
    · obtain ⟨other, reached⟩ := forward front [] rfl
      have same := foldlM_enter_of_keeps keeps reached
      rw [first] at same
      obtain rfl := Except.ok.inj same
      exact ⟨reached, entered⟩
    · have around := rooted.around found
      rw [child_eq_ok named, List.dropLast_concat] at around
      exact ⟨before first around, enter_of_child away down named found⟩

/-- A name in an old directory was named there before. -/
theorem target_eq_of_keeps (rooted : Rooted tree) (keeps : Keeps tree tree') {path : Path} {parent : Location}
    {name : String} {slash : Bool} (forward : ¬Backtracks tree path)
    (leads : tree'.target path = .ok (.named parent name slash)) (found : tree.find? parent = some .directory) :
    tree.target path = .ok (.named parent name slash) := by
  rw [target_eq_ok_iff, keeps.current] at leads
  obtain ⟨sound, ⟨-, ⟨⟩⟩ | ⟨front, last, directory, pieces, walked, ends⟩⟩ := leads
  rcases ends with ⟨-, -, -, ⟨⟩⟩ | ⟨away, given⟩
  obtain ⟨rfl, rfl, rfl⟩ := Target.named.inj given
  have steps : ∀ front' back, front = front' ++ ".." :: back →
      ∃ there, front'.foldlM tree.enter (if path.isAbsolute then [] else tree.current) = .ok there := by
    intro front' back split
    by_contra nowhere
    refine forward ⟨front', back ++ [name], ?_, fun there reached => nowhere ⟨there, reached⟩⟩
    rw [pieces, split, List.append_assoc, List.cons_append]
  have walked := walked_of_keeps rooted keeps steps walked found
  exact target_eq_ok_iff.mpr ⟨sound, .inr ⟨front, name, parent, pieces, walked, .inr ⟨away, rfl⟩⟩⟩

/-- **Where a path led to nothing, it meets no file** when more directories are there, unless it backtracks. -/
theorem find?_of_absent (rooted : Rooted tree) (keeps : Keeps tree tree') {path : Path} {place : Location}
    (absent : tree.present path = false) (forward : ¬Backtracks tree path)
    (writes : tree'.writePlace path = .ok place) : tree.find? place = none := by
  obtain ⟨parent, name, leads, named, free⟩ := writePlace_eq_ok_iff.mp writes
  by_contra held
  obtain ⟨entry, found⟩ := Option.ne_none_iff_exists'.mp held
  cases entry with
  | directory => exact free (keeps.directory found)
  | file contents =>
    have around := rooted.around found
    rw [child_eq_ok named, List.dropLast_concat] at around
    have leads := target_eq_of_keeps rooted keeps forward leads around
    rw [present, resolve_eq_ok_iff.mpr (.inr ⟨parent, name, false, leads, named, found, by simp⟩)] at absent
    cases absent

end FileTree

/-! ## Media -/

namespace Medium

open FileTree (Rooted)

/-- Computations that keep the trees of media rooted. -/
def rootedCorrespondence : Claim.Correspondence (StateM Medium) (StateM Medium) where
  rel act _ := ∀ medium, Rooted medium.tree → Rooted (act medium).2.tree
  rel_pure _ _ rooted := rooted
  rel_bind {_ _ x _ f _} first second medium rooted := by
    show Rooted (f (x medium).1 (x medium).2).2.tree
    exact second _ _ (first medium rooted)

theorem rooted_operate {α : Type} {wrong : Trouble → StateM FileTree α} {act : StateM FileTree α}
    (fails : ∀ trouble tree, Rooted tree → Rooted (wrong trouble tree).2)
    (acts : ∀ tree, Rooted tree → Rooted (act tree).2) :
    rootedCorrespondence.rel (operate wrong act) (operate wrong act) := by
  intro medium rooted
  unfold operate
  cases medium.troubles.head?.join with
  | some trouble => exact fails trouble _ rooted
  | none => exact acts _ rooted

theorem rooted_breakOff {write : ByteArray → StateM FileTree (Except FileError Unit)}
    (writes : ∀ contents tree, Rooted tree → Rooted (write contents tree).2) (contents : ByteArray) (trouble : Trouble)
    (tree : FileTree) (rooted : Rooted tree) : Rooted (breakOff write contents trouble tree).2 := by
  unfold breakOff
  cases trouble.bytes with
  | none => exact rooted
  | some bytes => exact writes _ tree rooted

/-- **Whatever is done with its files, a tree stays rooted**, and whatever goes wrong. -/
theorem corresponding_rooted : Files.Corresponding rootedCorrespondence files files where
  read _ := rooted_operate (fun _ _ rooted => rooted) fun _ rooted => rooted
  present _ := rooted_operate (fun _ _ rooted => rooted) fun _ rooted => rooted
  isDirectory _ := rooted_operate (fun _ _ rooted => rooted) fun _ rooted => rooted
  createDirectory path := rooted_operate (fun _ _ rooted => rooted) fun _ rooted =>
    FileTree.rooted_createDirectory rooted path
  write path contents := rooted_operate
    (rooted_breakOff (fun contents _ rooted => FileTree.rooted_write rooted path contents) contents) fun _ rooted =>
    FileTree.rooted_write rooted path contents
  createDraft directory := rooted_operate (fun _ _ rooted => rooted) fun _ rooted =>
    FileTree.rooted_createDraft rooted directory
  fill draft contents := rooted_operate
    (rooted_breakOff (fun contents _ rooted => FileTree.rooted_fill rooted draft contents) contents) fun _ rooted =>
    FileTree.rooted_fill rooted draft contents
  publish draft path := rooted_operate (fun _ _ rooted => rooted) fun _ rooted =>
    FileTree.rooted_publish rooted draft path
  discard draft _ rooted := FileTree.rooted_discard rooted draft

end Medium

end Allotment
