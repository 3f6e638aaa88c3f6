import Allotment.Proofs.Files.Basic
import Allotment.Proofs.Files.Directories

/-!
# Files on a medium that may fail

A `Medium` is a tree of files with troubles to come: any operation may fail for any reason, as for want of permission
or room, and what is written may get there in part. What happens to the tree is told by `Spared`: everything is as it
was, but that directories may have been made on the way to some paths and that one file may have been written.

* `Medium.createMissing_sparing`: making directories spares everything, whether it succeeds or not, and changes nothing
  where all of them are there (`Medium.createMissing_leaving`);
* `Medium.wrote_write`: a file is written in place as a whole, or in part, or not at all (`Medium.Wrote`);
* `Medium.replace_medium`: a file is written by way of a draft or not at all, and nothing is left of the draft.
-/

namespace Allotment

/-- What goes wrong with an operation: the reason, and how many bytes get there of what was to be written, if it comes
to writing at all. -/
structure Trouble where
  reason : FileError
  bytes : Option Nat

/-- A tree of files, and for the operations to come what goes wrong with them, if anything does. -/
structure Medium where
  tree : FileTree
  troubles : List (Option Trouble)

namespace Medium

/-- One operation: if it is its turn to go wrong, `wrong` tells how it does. -/
def operate {α : Type} (wrong : Trouble → StateM FileTree α) (act : StateM FileTree α) : StateM Medium α :=
  fun medium =>
    let (a, tree) := match medium.troubles.head?.join with
      | some trouble => wrong trouble medium.tree
      | none => act medium.tree
    (a, ⟨tree, medium.troubles.tail⟩)

/-- Fails and does nothing. -/
def refuse {α : Type} (trouble : Trouble) : StateM FileTree (Except FileError α) := return .error trouble.reason

/-- Fails when some of the bytes have been written, or before. -/
def breakOff (write : ByteArray → StateM FileTree (Except FileError Unit)) (contents : ByteArray) (trouble : Trouble) :
    StateM FileTree (Except FileError Unit) :=
  match trouble.bytes with
  | none => refuse trouble
  | some bytes => do
    let _ ← write (contents.extract 0 bytes)
    return .error trouble.reason

/-- The access to files that a medium answers. -/
def files : Files (StateM Medium) where
  read path := operate refuse (FileTree.files.read path)
  present path := operate (fun _ => return false) (FileTree.files.present path)
  isDirectory path := operate (fun _ => return false) (FileTree.files.isDirectory path)
  createDirectory path := operate refuse (FileTree.files.createDirectory path)
  write path contents := operate (breakOff (FileTree.files.write path) contents) (FileTree.files.write path contents)
  createDraft directory := operate refuse (FileTree.files.createDraft directory)
  fill draft contents := operate (breakOff (FileTree.files.fill draft) contents) (FileTree.files.fill draft contents)
  publish draft path := operate refuse (FileTree.files.publish draft path)
  -- A draft that was given up is removed whatever else goes wrong.
  discard draft := fun medium => ((), { medium with tree := medium.tree.discard draft })

/-- What is asked of the tree is answered by it, unless the question goes wrong. -/
theorem present_eq (path : Path) (medium : Medium) :
    files.present path medium =
      (match medium.troubles.head?.join with
        | some _ => false
        | none => medium.tree.present path, ⟨medium.tree, medium.troubles.tail⟩) := by
  simp only [files, operate]
  cases medium.troubles.head?.join with
  | some trouble => rfl
  | none => rfl

theorem read_eq (path : Path) (medium : Medium) :
    files.read path medium =
      (match medium.troubles.head?.join with
        | some trouble => .error trouble.reason
        | none => medium.tree.read path, ⟨medium.tree, medium.troubles.tail⟩) := by
  simp only [files, operate]
  cases medium.troubles.head?.join with
  | some trouble => rfl
  | none => rfl

/-- A medium without troubles does what its tree does. -/
def untroubled : Claim.Correspondence (StateM Medium) (StateM FileTree) where
  rel x y := ∀ tree, x ⟨tree, []⟩ = ((y tree).1, ⟨(y tree).2, []⟩)
  rel_pure _ _ := rfl
  rel_bind {_ _ x y f g} first second tree := by
    show f (x ⟨tree, []⟩).1 (x ⟨tree, []⟩).2 = _
    rw [first tree]
    exact second _ _

theorem corresponding_untroubled : Files.Corresponding untroubled files FileTree.files where
  read _ _ := rfl
  present _ _ := rfl
  isDirectory _ _ := rfl
  createDirectory _ _ := rfl
  write _ _ _ := rfl
  createDraft _ _ := rfl
  fill _ _ _ := rfl
  publish _ _ _ := rfl
  discard _ _ := rfl

end Medium

namespace FileTree

/-! ## What is spared -/

/-- All files stay as they are but for the one at `written`, if there is such a place: none is changed, removed or
added. All directories stay, and those that are new are where paths of `made` lead. -/
structure Spared (made : List Path) (written : Option Location) (tree tree' : FileTree) : Prop where
  keeps : Keeps tree tree'
  files (place : Location) (contents : ByteArray) : some place ≠ written →
    (tree'.find? place = some (.file contents) ↔ tree.find? place = some (.file contents))
  directories (place : Location) : tree'.find? place = some .directory →
    tree.find? place = some .directory ∨ ∃ path ∈ made, tree'.resolve path = .ok (place, .directory)

namespace Spared

variable {made : List Path} {written : Option Location} {tree between tree' : FileTree}

theorem refl (tree : FileTree) : Spared made written tree tree where
  keeps := .refl tree
  files _ _ _ := Iff.rfl
  directories _ := .inl

/-- Whatever is done first, if all files are spared then what is done next counts. -/
theorem trans (first : Spared made none tree between) (second : Spared made written between tree') :
    Spared made written tree tree' where
  keeps := first.keeps.trans second.keeps
  files place contents other := (second.files place contents other).trans (first.files place contents nofun)
  directories place found := by
    rcases second.directories place found with found | added
    · rcases first.directories place found with found | ⟨path, mem, leads⟩
      · exact .inl found
      · exact .inr ⟨path, mem, resolve_of_keeps second.keeps leads⟩
    · exact .inr added

theorem mono {more : List Path} (spared : Spared made written tree tree') (subset : made ⊆ more) :
    Spared more written tree tree' where
  keeps := spared.keeps
  files := spared.files
  directories place found := by
    rcases spared.directories place found with found | ⟨path, mem, leads⟩
    · exact .inl found
    · exact .inr ⟨path, subset mem, leads⟩

/-- What was read at a path is read there, unless just that file was written. -/
theorem read (spared : Spared made none tree tree') {path : Path} {contents : ByteArray}
    (found : tree.read path = .ok contents) : tree'.read path = .ok contents := by
  obtain ⟨⟨place, entry⟩, resolved, held⟩ := bind_eq_ok_iff.mp found
  cases entry with
  | directory => cases held
  | file contents' =>
    obtain rfl : contents' = contents := Except.ok.inj held
    rcases resolve_eq_ok_iff.mp resolved with ⟨-, ⟨⟩⟩ | ⟨parent, name, slash, leads, named, held, trailing⟩
    have leads := target_of_keeps spared.keeps leads
    have held := (spared.files place contents' (Option.some_ne_none place)).mpr held
    rw [FileTree.read, resolve_eq_ok_iff.mpr (.inr ⟨parent, name, slash, leads, named, held, trailing⟩)]
    rfl

end Spared

/-- A file that is moved to its place spares all others. -/
theorem spared_insert_file {made : List Path} {tree : FileTree} {place : Location}
    (free : tree.find? place ≠ some .directory) (below : place ≠ []) (contents : ByteArray) :
    Spared made (some place) tree (tree.insert place (.file contents)) where
  keeps := keeps_insert free _
  files place' contents' other := by
    rw [find?_insert_of_ne tree (fun same => other (congrArg some same))]
  directories place' found := by
    by_cases here : place' = place
    case pos =>
      rw [here, find?_insert_self tree below] at found
      cases found
    case neg =>
      rw [find?_insert_of_ne tree here] at found
      exact .inl found

/-- A directory is made at a free place, and its path leads there from then on. -/
theorem directoryPlace_eq_ok {tree : FileTree} {path : Path} {place : Location}
    (makes : tree.directoryPlace path = .ok place) :
    place ≠ [] ∧ tree.find? place = none ∧ (tree.insert place .directory).resolve path = .ok (place, .directory) := by
  obtain ⟨parent, name, slash, leads, named, free⟩ := directoryPlace_eq_ok_iff.mp makes
  have below : place ≠ [] := ne_nil_of_child named
  have leads := target_of_keeps (keeps_insert (by rw [free]; exact nofun) .directory) leads
  have found := find?_insert_self tree below .directory
  exact ⟨below, free, resolve_eq_ok_iff.mpr (.inr ⟨parent, name, slash, leads, named, found, fun _ => rfl⟩)⟩

/-- A directory that is made spares all files. -/
theorem spared_insert_directory {tree : FileTree} {path : Path} {place : Location}
    (makes : tree.directoryPlace path = .ok place) : Spared [path] none tree (tree.insert place .directory) := by
  obtain ⟨below, free, leads⟩ := directoryPlace_eq_ok makes
  refine ⟨keeps_insert (by rw [free]; exact nofun) _, ?_, ?_⟩
  · intro place' contents _
    by_cases here : place' = place
    case pos =>
      rw [here, find?_insert_self tree below, free]
      exact ⟨nofun, nofun⟩
    case neg => rw [find?_insert_of_ne tree here]
  · intro place' found
    by_cases here : place' = place
    case pos => exact .inr ⟨path, List.mem_singleton_self path, here ▸ leads⟩
    case neg =>
      rw [find?_insert_of_ne tree here] at found
      exact .inl found

end FileTree

namespace Medium

open FileTree (Spared)

/-! ## Making directories -/

/-- A computation that spares all files and makes directories only where the given paths lead. -/
def Sparing {α : Type} (made : List Path) (act : StateM Medium α) : Prop :=
  ∀ medium, Spared made none medium.tree (act medium).2.tree

namespace Sparing

variable {α β : Type} {made : List Path}

theorem pure (a : α) : Sparing made (pure a : StateM Medium α) := fun medium => .refl medium.tree

theorem bind {x : StateM Medium α} {f : α → StateM Medium β} (first : Sparing made x)
    (second : ∀ a, Sparing made (f a)) : Sparing made (x >>= f) :=
  fun medium => (first medium).trans (second _ _)

theorem mono {more : List Path} {x : StateM Medium α} (sparing : Sparing made x) (subset : made ⊆ more) :
    Sparing more x :=
  fun medium => (sparing medium).mono subset

/-- An operation spares what it spares when it goes right and when it goes wrong. -/
theorem operate {wrong : Trouble → StateM FileTree α} {act : StateM FileTree α}
    (fails : ∀ trouble tree, Spared made none tree (wrong trouble tree).2)
    (acts : ∀ tree, Spared made none tree (act tree).2) : Sparing made (operate wrong act) := by
  intro medium
  unfold Medium.operate
  cases medium.troubles.head?.join with
  | some trouble => exact fails trouble medium.tree
  | none => exact acts medium.tree

end Sparing

theorem createDirectory_sparing (path : Path) : Sparing [path] (files.createDirectory path) := by
  refine .operate (fun _ tree => .refl tree) fun tree => ?_
  show Spared _ _ _ (tree.put (tree.directoryPlace path) .directory).2
  cases makes : tree.directoryPlace path with
  | error e => exact .refl tree
  | ok place => exact FileTree.spared_insert_directory makes

theorem allowDirectory_sparing (made : List Path) (path : Path) (e : FileError) :
    Sparing made (files.allowDirectory path e) :=
  .bind (.operate (fun _ tree => .refl tree) fun tree => .refl tree) fun _ => .pure _

/-- **Making directories spares everything**, whether all of them are made or not. -/
theorem createMissing_sparing (paths : List Path) : Sparing paths (files.createMissing paths) := by
  induction paths with
  | nil => exact .pure _
  | cons path above ih =>
    have one : Sparing (path :: above) (files.createDirectory path) :=
      (createDirectory_sparing path).mono (List.cons_subset_cons path (List.nil_subset above))
    refine one.bind fun outcome => ?_
    cases outcome with
    | ok _ => exact .pure _
    | error e =>
      cases e with
      | notFound =>
        refine (ih.mono (List.subset_cons_self path above)).bind fun outcome => ?_
        cases outcome with
        | error e => exact .pure _
        | ok _ =>
          refine one.bind fun outcome => ?_
          cases outcome with
          | ok _ => exact .pure _
          | error e => exact allowDirectory_sparing _ path e
      | _ => exact allowDirectory_sparing _ path _

theorem createDirectories_sparing (path : Path) : Sparing path.ancestors (files.createDirectories path) := by
  unfold Files.createDirectories
  exact createMissing_sparing path.ancestors

/-- A computation that changes nothing in a tree. -/
def Leaving {α : Type} (tree : FileTree) (act : StateM Medium α) : Prop :=
  ∀ medium, medium.tree = tree → (act medium).2.tree = tree

namespace Leaving

variable {α β : Type} {tree : FileTree}

theorem pure (a : α) : Leaving tree (pure a : StateM Medium α) := fun _ same => same

theorem bind {x : StateM Medium α} {f : α → StateM Medium β} (first : Leaving tree x)
    (second : ∀ a, Leaving tree (f a)) : Leaving tree (x >>= f) :=
  fun medium same => second _ _ (first medium same)

theorem operate {wrong : Trouble → StateM FileTree α} {act : StateM FileTree α}
    (fails : ∀ trouble, (wrong trouble tree).2 = tree) (acts : (act tree).2 = tree) :
    Leaving tree (operate wrong act) := by
  rintro medium rfl
  unfold Medium.operate
  cases medium.troubles.head?.join with
  | some trouble => exact fails trouble
  | none => exact acts

end Leaving

theorem createDirectory_leaving {tree : FileTree} {path : Path} (there : tree.isDirectory path = true) :
    Leaving tree (files.createDirectory path) := by
  refine .operate (fun _ => rfl) ?_
  rw [FileTree.createDirectory_eq, FileTree.directoryPlace_of_isDirectory there]
  rfl

theorem allowDirectory_leaving (tree : FileTree) (path : Path) (e : FileError) :
    Leaving tree (files.allowDirectory path e) :=
  .bind (.operate (fun _ => rfl) rfl) fun _ => .pure _

/-- **Making directories that are there changes nothing**, whatever goes wrong. -/
theorem createMissing_leaving {tree : FileTree} {paths : List Path}
    (there : ∀ path ∈ paths, tree.isDirectory path = true) : Leaving tree (files.createMissing paths) := by
  induction paths with
  | nil => exact .pure _
  | cons path above ih =>
    obtain ⟨here, there⟩ := List.forall_mem_cons.mp there
    refine (createDirectory_leaving here).bind fun outcome => ?_
    cases outcome with
    | ok _ => exact .pure _
    | error e =>
      cases e with
      | notFound =>
        refine (ih there).bind fun outcome => ?_
        cases outcome with
        | error e => exact .pure _
        | ok _ =>
          refine (createDirectory_leaving here).bind fun outcome => ?_
          cases outcome with
          | ok _ => exact .pure _
          | error e => exact allowDirectory_leaving tree path e
      | _ => exact allowDirectory_leaving tree path _

/-! ## Files written in place -/

/-- What writing a file in place comes to: nothing is written, or a front part of the contents, or all of them. -/
inductive Wrote (path : Path) (contents : ByteArray) (tree : FileTree) : Except FileError Unit → FileTree → Prop where
  | kept (e : FileError) : Wrote path contents tree (.error e) tree
  | front (e : FileError) {place : Location} (bytes : Nat) : tree.writePlace path = .ok place →
      Wrote path contents tree (.error e) (tree.insert place (.file (contents.extract 0 bytes)))
  | whole {place : Location} : tree.writePlace path = .ok place →
      Wrote path contents tree (.ok ()) (tree.insert place (.file contents))

theorem wrote_write (path : Path) (contents : ByteArray) (medium : Medium) :
    Wrote path contents medium.tree (files.write path contents medium).1
      (files.write path contents medium).2.tree := by
  have put (contents : ByteArray) : FileTree.files.write path contents medium.tree =
      medium.tree.put (medium.tree.writePlace path) (.file contents) := rfl
  simp only [files, operate]
  cases medium.troubles.head?.join with
  | none =>
    rw [put]
    cases writes : medium.tree.writePlace path with
    | error e => exact .kept e
    | ok place => exact .whole writes
  | some trouble =>
    cases written : trouble.bytes with
    | none =>
      simp only [breakOff, written]
      exact .kept _
    | some bytes =>
      simp only [breakOff, written, bind, StateT.bind, put]
      cases writes : medium.tree.writePlace path with
      | error e => exact .kept _
      | ok place => exact .front _ bytes writes

/-- A file is written whole just where it can be written and nothing goes wrong. -/
theorem write_ok_iff {path : Path} {contents : ByteArray} {medium : Medium} :
    (files.write path contents medium).1 = .ok () ↔
      (∃ place, medium.tree.writePlace path = .ok place) ∧ medium.troubles.head?.join = none := by
  have put : FileTree.files.write path contents medium.tree =
      medium.tree.put (medium.tree.writePlace path) (.file contents) := rfl
  simp only [files, operate]
  cases medium.troubles.head?.join with
  | none =>
    rw [put]
    cases medium.tree.writePlace path with
    | error e => simp [FileTree.put]
    | ok place => simp [FileTree.put]
  | some trouble =>
    have fails : (breakOff (FileTree.files.write path) contents trouble medium.tree).1 = .error trouble.reason := by
      unfold breakOff
      cases trouble.bytes with
      | none => rfl
      | some bytes => rfl
    show (breakOff (FileTree.files.write path) contents trouble medium.tree).1 = .ok () ↔ _
    rw [fails]
    simp

/-! ## Drafts -/

section Draft

variable {tree : FileTree} {directory : Path} {draft : Draft} {place : Location}

/-- A draft is made, or nothing is. -/
theorem createDraft_medium (directory : Path) (medium : Medium) :
    (∃ e troubles, files.createDraft directory medium = (.error e, ⟨medium.tree, troubles⟩)) ∨
      ∃ draft place troubles, medium.tree.newDraft directory = .ok (draft, place) ∧
        files.createDraft directory medium = (.ok draft, ⟨medium.tree.insert place (.file .empty), troubles⟩) := by
  obtain ⟨tree, troubles⟩ := medium
  cases turn : troubles.head?.join with
  | some trouble =>
    left
    refine ⟨trouble.reason, troubles.tail, ?_⟩
    simp only [files, operate, turn]
    rfl
  | none =>
    cases made : tree.newDraft directory with
    | error e =>
      left
      refine ⟨e, troubles.tail, ?_⟩
      simp only [files, operate, turn, FileTree.files, FileTree.createDraft, made]
    | ok found =>
      obtain ⟨draft, place⟩ := found
      right
      refine ⟨draft, place, troubles.tail, rfl, ?_⟩
      simp only [files, operate, turn, FileTree.createDraft_newDraft made]

variable (made : tree.newDraft directory = .ok (draft, place))
include made

/-- A draft is filled in whole or in part. -/
theorem fill_medium (held contents : ByteArray) (troubles : List (Option Trouble)) :
    (∃ e contents' troubles', files.fill draft contents ⟨tree.insert place (.file held), troubles⟩ =
        (.error e, ⟨tree.insert place (.file contents'), troubles'⟩)) ∨
      ∃ troubles', files.fill draft contents ⟨tree.insert place (.file held), troubles⟩ =
        (.ok (), ⟨tree.insert place (.file contents), troubles'⟩) := by
  cases turn : troubles.head?.join with
  | some trouble =>
    left
    cases written : trouble.bytes with
    | none =>
      refine ⟨trouble.reason, held, troubles.tail, ?_⟩
      simp only [files, operate, turn, breakOff, written]
      rfl
    | some bytes =>
      refine ⟨trouble.reason, contents.extract 0 bytes, troubles.tail, ?_⟩
      simp only [files, operate, turn, breakOff, written, bind, StateT.bind, FileTree.fill_newDraft made]
      rfl
  | none =>
    right
    refine ⟨troubles.tail, ?_⟩
    simp only [files, operate, turn, FileTree.fill_newDraft made]

/-- A draft is moved to a path, or stays where it is. -/
theorem publish_medium (contents : ByteArray) (path : Path) (troubles : List (Option Trouble)) :
    (∃ e troubles', files.publish draft path ⟨tree.insert place (.file contents), troubles⟩ =
        (.error e, ⟨tree.insert place (.file contents), troubles'⟩)) ∨
      ∃ there troubles', tree.movePlace path = .ok there ∧
        files.publish draft path ⟨tree.insert place (.file contents), troubles⟩ =
          (.ok (), ⟨tree.insert there (.file contents), troubles'⟩) := by
  cases turn : troubles.head?.join with
  | some trouble =>
    left
    refine ⟨trouble.reason, troubles.tail, ?_⟩
    simp only [files, operate, turn]
    rfl
  | none =>
    cases moves : tree.movePlace path with
    | error e =>
      left
      refine ⟨e, troubles.tail, ?_⟩
      simp only [files, operate, turn, FileTree.publish_newDraft made, moves]
    | ok there =>
      right
      refine ⟨there, troubles.tail, rfl, ?_⟩
      simp only [files, operate, turn, FileTree.publish_newDraft made, moves]

/-- Nothing is left of a draft that was given up. -/
theorem discard_medium (contents : ByteArray) (troubles : List (Option Trouble)) :
    files.discard draft ⟨tree.insert place (.file contents), troubles⟩ = ((), ⟨tree, troubles⟩) := by
  have gone := congrArg Prod.snd (FileTree.discard_newDraft made contents)
  show ((), (⟨_, troubles⟩ : Medium)) = _
  exact congrArg (fun tree => ((), (⟨tree, troubles⟩ : Medium))) gone

end Draft

/-- **A file is written by way of a draft or not at all**, whatever goes wrong. -/
theorem replace_medium (directory path : Path) (contents : ByteArray) (medium : Medium) :
    (∃ e troubles, files.replace directory path contents medium = (.error e, ⟨medium.tree, troubles⟩)) ∨
      ∃ there troubles, medium.tree.movePlace path = .ok there ∧
        files.replace directory path contents medium =
          (.ok (), ⟨medium.tree.insert there (.file contents), troubles⟩) := by
  rcases createDraft_medium directory medium with ⟨e, troubles, created⟩ | ⟨draft, place, troubles, made, created⟩
  · left
    refine ⟨e, troubles, ?_⟩
    simp only [Files.replace, bind, StateT.bind, created]
    rfl
  rcases fill_medium made .empty contents troubles with ⟨e, partly, troubles', filled⟩ | ⟨troubles', filled⟩
  · left
    refine ⟨e, troubles', ?_⟩
    simp only [Files.replace, bind, StateT.bind, created, filled, discard_medium made]
    rfl
  rcases publish_medium made contents path troubles' with
    ⟨e, troubles'', published⟩ | ⟨there, troubles'', moves, published⟩
  · left
    refine ⟨e, troubles'', ?_⟩
    simp only [Files.replace, bind, StateT.bind, created, filled, published, discard_medium made]
    rfl
  · right
    refine ⟨there, troubles'', moves, ?_⟩
    simp only [Files.replace, bind, StateT.bind, created, filled, published]
    rfl

-- A draft is made, and then there is room for two more bytes only.
example :
    let old : FileTree := ⟨[(["a"], .file "old".toUTF8)], []⟩
    files.replace ⟨"."⟩ ⟨"a"⟩ "new".toUTF8 ⟨old, [none, some ⟨.other "No space left on device", some 2⟩]⟩ =
      (.error (.other "No space left on device"), ⟨old, []⟩) := by rfl

end Medium

end Allotment
