import Allotment.Proofs.Command.Planning
import Allotment.Proofs.Files.Medium
import Allotment.Proofs.Files.ReadOnly
import Allotment.Proofs.Files.Rooted
import Allotment.Proofs.Settings.Saved

/-!
# Settings that are made on first use

* The standard configuration is read from its text (`Config.ofText_standard`);
* loading settings asks nothing of the files but to be read (`Settings.load_readOnly`), changes nothing
  (`Settings.load_leaves`), and fails where nothing is (`Settings.load_medium_of_absent`);
* settings that are seen are loaded (`Settings.loadOrCreate_of_seen`), and other ones are made
  (`Settings.loadOrCreate_of_unseen`), but not once more (`Settings.Saved.made_again`);
* `Settings.Careful`: all that may become of the files when this is done on a medium that may fail
  (`Settings.careful_loadOrCreate`);
* so files that are there are changed by one kind of path only, unless they are not seen: one that leads to nothing and
  steps up out of a directory that is missing (`Settings.loadOrDefault_firstUse`, `Settings.not_forall_unchanged`).
  Settings that are made may break off and stay so (`Settings.not_forall_spared`).
-/

namespace Allotment

open FileTree (Spared)

open Json in
theorem Config.ofText_standard : ofText standard.pretty = .ok standard := by
  have empty : Decoder.object.Fits .object [] := Decoder.fits_object List.nodup_nil trivial rfl
  rw [ofText_pretty empty empty]
  exact allowed_of_true (by decide)

namespace Settings

theorem ofText_standard (path : Path) : ofText path Config.standard.pretty = .ok ⟨Config.standard, path⟩ := by
  rw [ofText, Config.ofText_standard]

variable {path : Path} {tree tree' : FileTree} {s : Settings}

/-! ## Loading -/

/-- Loading settings asks nothing of the files but to be read. -/
theorem load_readOnly {m : Type → Type} [Monad m] (files : Files m) (path : Path) :
    load files.readOnly path = load files path := rfl

theorem load_unchanged (path : Path) (tree : FileTree) : ∃ result, load FileTree.files path tree = (result, tree) := by
  have asks := load_rel FileTree.corresponding_readOnly path
  rw [load_readOnly] at asks
  exact ⟨_, congrFun asks tree⟩

theorem load_of_absent (absent : tree.present path = false) :
    load FileTree.files path tree = (.error (.notFound path), tree) := by
  have missing : FileTree.files.present path tree = (false, tree) := congrArg (·, tree) absent
  rw [load_apply, missing]

/-- Loading settings changes nothing on a medium, whatever goes wrong. -/
theorem load_leaves (path : Path) (medium : Medium) :
    ∃ result later, load Medium.files path medium = (result, ⟨medium.tree, later⟩) := by
  rw [load_apply, Medium.present_eq]
  cases medium.troubles.head?.join with
  | some trouble => exact ⟨_, _, rfl⟩
  | none =>
    dsimp only
    cases medium.tree.present path with
    | false => exact ⟨_, _, rfl⟩
    | true =>
      have asked := Medium.read_eq path ⟨medium.tree, medium.troubles.tail⟩
      dsimp only
      rw [read_apply]
      generalize Medium.files.read path _ = answer at asked ⊢
      obtain ⟨outcome, after⟩ := answer
      obtain rfl : after = _ := congrArg Prod.snd asked
      cases outcome with
      | error cause => exact ⟨_, _, rfl⟩
      | ok contents => exact ⟨_, _, rfl⟩

/-- Loading settings where nothing is fails for that reason, whatever goes wrong. -/
theorem load_medium_of_absent {medium : Medium} (absent : medium.tree.present path = false) :
    (load Medium.files path medium).1 = .error (.notFound path) := by
  rw [load_apply, Medium.present_eq, absent]
  cases medium.troubles.head?.join with
  | some trouble => rfl
  | none => rfl

/-! ## Making what is missing -/

section Access

variable {σ : Type} {files : Files (StateM σ)} {state after : σ}

/-- Settings that are seen are loaded. -/
theorem loadOrCreate_of_seen (seen : (files.present path state).1 = true) :
    loadOrCreate files path state = load files path state := by
  simp only [loadOrCreate, load, bind, StateT.bind]
  generalize files.present path state = asked at seen ⊢
  obtain ⟨there, after⟩ := asked
  dsimp only at seen
  rw [seen]
  rfl

/-- Settings that are not seen are made: the standard ones are saved. -/
theorem loadOrCreate_of_unseen (unseen : files.present path state = (false, after)) :
    loadOrCreate files path state =
      ((save files ⟨Config.standard, path⟩ after).1.map fun _ => ⟨Config.standard, path⟩,
        (save files ⟨Config.standard, path⟩ after).2) := by
  simp only [loadOrCreate, bind, StateT.bind, unseen, Bool.false_eq_true, if_false]
  generalize save files ⟨Config.standard, path⟩ after = saved
  obtain ⟨outcome, after⟩ := saved
  cases outcome with
  | error e => rfl
  | ok _ => rfl

end Access

theorem loadOrCreate_of_present (there : tree.present path = true) :
    loadOrCreate FileTree.files path tree = load FileTree.files path tree :=
  loadOrCreate_of_seen there

/-- The file of a service when variables are looked up in the given way. -/
def fileOf (env : String → Option String) (service : String) : Path :=
  Id.run (Path.settingsFile (fun name => pure (env name)) service)

section Paths

variable {m : Type → Type} [Monad m] [LawfulMonad m]

/-- Where the file of a service is does not depend on the files. -/
theorem settingsFile_eq (env : String → Option String) (service : String) :
    (Path.settingsFile (fun name => pure (env name)) service : m Path) = pure (fileOf env service) := by
  cases value : env "XDG_CONFIG_HOME" with
  | none => simp [fileOf, Path.settingsFile, Path.configDirectory, Path.configHome, Path.home, value]
  | some directory => simp [fileOf, Path.settingsFile, Path.configDirectory, Path.configHome, value]

/-- The settings of a service are loaded from the path that is given or else from its file, or made there. -/
theorem loadOrDefault_eq (files : Files m) (env : String → Option String) (service : String) (custom : Option Path) :
    loadOrDefault files (fun name => pure (env name)) service custom =
      loadOrCreate files (custom.getD (fileOf env service)) := by
  cases custom with
  | some path => rw [loadOrDefault, Option.getD_some]
  | none => rw [loadOrDefault, settingsFile_eq, pure_bind, Option.getD_none]

end Paths

/-! ## First use -/

/-- A file that is written once directories have been made spares all others. -/
theorem spared_of_writePlace {made : FileTree} {place : Location} (spared : Spared (directories path) none tree made)
    (writes : made.writePlace path = .ok place) (contents : ByteArray) :
    (made.insert place (.file contents)).resolve path = .ok (place, .file contents) ∧
      Spared (directories path) (some place) tree (made.insert place (.file contents)) := by
  obtain ⟨parent, name, leads, named, free⟩ := FileTree.writePlace_eq_ok_iff.mp writes
  exact ⟨FileTree.resolve_insert_named leads named free contents,
    spared.trans (FileTree.spared_insert_file free (FileTree.ne_nil_of_child named) _)⟩

/-- Whatever saving comes to, a file that was there stays, if nothing was at the path and it does not backtrack. -/
theorem Saved.keeps_file {result : Except SettingsError Unit} (saved : Saved s tree result tree')
    (rooted : tree.Rooted) (absent : tree.present s.path = false) (forward : ¬tree.Backtracks s.path)
    {place : Location} {contents : ByteArray} (held : tree.find? place = some (.file contents)) :
    tree'.find? place = some (.file contents) := by
  have written {made : FileTree} {there : Location} (spared : Spared (directories s.path) none tree made)
      (writes : made.writePlace s.path = .ok there) (text : ByteArray) :
      (made.insert there (.file text)).find? place = some (.file contents) := by
    refine ((spared_of_writePlace spared writes text).2.files place contents ?_).mpr held
    intro same
    obtain rfl := Option.some.inj same
    rw [FileTree.find?_of_absent rooted spared.keeps absent forward writes] at held
    cases held
  cases saved with
  | kept e spared => exact (spared.files place contents nofun).mpr held
  | front cause bytes spared writes => exact written spared writes _
  | whole spared writes => exact written spared writes _

/-- **What becomes of the files when settings are loaded or made.** `seen` tells whether anything is seen at the path.
If so, nothing is changed at all. If loading or making the settings fails, no file is changed or made but the one at the
path, which has a front part of the text then. Files that are there stay as they are, unless nothing is at the path and
the path backtracks, or what is there is not seen. -/
structure Careful (path : Path) (seen : Bool) (tree : FileTree) (result : Except SettingsError Settings)
    (tree' : FileTree) : Prop where
  unchanged : seen = true → tree' = tree
  failed {e : SettingsError} : result = .error e →
    Spared (directories path) none tree tree' ∨
      (∃ cause, e = .unwritable cause) ∧ ∃ place bytes,
        tree'.resolve path = .ok (place, .file (Config.standard.pretty.toUTF8.extract 0 bytes)) ∧
        Spared (directories path) (some place) tree tree'
  made {s : Settings} : seen = false → result = .ok s →
    ∃ place, tree'.resolve path = .ok (place, .file Config.standard.pretty.toUTF8) ∧
      Spared (directories path) (some place) tree tree'
  kept {place : Location} {contents : ByteArray} : tree.Rooted → seen = tree.present path →
    ¬(tree.present path = false ∧ tree.Backtracks path) →
    tree.find? place = some (.file contents) → tree'.find? place = some (.file contents)

/-- Saving the standard settings where nothing is seen is careful. -/
theorem Saved.careful {outcome : Except SettingsError Unit}
    (saved : Saved ⟨Config.standard, path⟩ tree outcome tree') :
    Careful path false tree (outcome.map fun _ => ⟨Config.standard, path⟩) tree' where
  unchanged := nofun
  failed failed := by
    cases saved with
    | kept e spared => exact .inl spared
    | front cause bytes spared writes =>
      obtain rfl := Except.error.inj failed
      exact .inr ⟨⟨cause, rfl⟩, _, bytes, spared_of_writePlace spared writes _⟩
    | whole spared writes => cases failed
  made _ succeeded := by
    cases saved with
    | kept e spared => cases succeeded
    | front cause bytes spared writes => cases succeeded
    | whole spared writes => exact ⟨_, spared_of_writePlace spared writes _⟩
  kept rooted answer forward held := by
    have absent : tree.present path = false := answer.symm
    exact saved.keeps_file rooted absent (fun backtracks => forward ⟨absent, backtracks⟩) held

/-- What is not seen on a medium is not seen for a reason that is used up then. -/
theorem present_of_unseen {medium : Medium} (unseen : (Medium.files.present path medium).1 = false) :
    Medium.files.present path medium = (false, ⟨medium.tree, medium.troubles.tail⟩) := by
  rw [Medium.present_eq] at unseen ⊢
  exact congrArg (·, _) unseen

/-- **Loading settings or making them is careful**, whatever goes wrong. -/
theorem careful_loadOrCreate {medium after : Medium} {result : Except SettingsError Settings}
    (outcome : loadOrCreate Medium.files path medium = (result, after)) :
    Careful path (Medium.files.present path medium).1 medium.tree result after.tree := by
  cases seen : (Medium.files.present path medium).1 with
  | true =>
    obtain ⟨loaded, later, unchanged⟩ := load_leaves path medium
    rw [loadOrCreate_of_seen seen, unchanged] at outcome
    cases outcome
    constructor
    · exact fun _ => rfl
    · exact fun _ => .inl (.refl _)
    · nofun
    · exact fun _ _ _ held => held
  | false =>
    rw [loadOrCreate_of_unseen (present_of_unseen seen)] at outcome
    cases outcome
    exact (saved_save _ ⟨medium.tree, medium.troubles.tail⟩).careful

section Made

variable {medium after : Medium} {result : Except SettingsError Settings}
  (unseen : (Medium.files.present path medium).1 = false)
include unseen

/-- What is made was saved. -/
theorem saved_of_made (made : loadOrCreate Medium.files path medium = (.ok s, after)) :
    s = ⟨Config.standard, path⟩ ∧ Saved s medium.tree (.ok ()) after.tree := by
  have saved := saved_save ⟨Config.standard, path⟩ ⟨medium.tree, medium.troubles.tail⟩
  rw [loadOrCreate_of_unseen (present_of_unseen unseen)] at made
  generalize save Medium.files _ _ = outcome at made saved
  obtain ⟨outcome, later⟩ := outcome
  cases outcome with
  | error e => cases made
  | ok _ =>
    cases made
    exact ⟨rfl, saved⟩

/-- Making what is missing succeeds just where the directories above it can be made, and it can be written then, and
nothing goes wrong with that. -/
theorem loadOrCreate_ok_iff (outcome : loadOrCreate Medium.files path medium = (result, after)) :
    (∃ s, result = .ok s) ↔ ∃ made place,
      Medium.files.createMissing (directories path) ⟨medium.tree, medium.troubles.tail⟩ = (.ok (), made) ∧
        made.tree.writePlace path = .ok place ∧ made.troubles.head?.join = none := by
  have saves := save_ok_iff ⟨Config.standard, path⟩ ⟨medium.tree, medium.troubles.tail⟩
  rw [loadOrCreate_of_unseen (present_of_unseen unseen)] at outcome
  generalize save Medium.files _ _ = saved at outcome saves
  obtain ⟨wrote, later⟩ := saved
  cases wrote with
  | error e =>
    cases outcome
    constructor
    · rintro ⟨s, ⟨⟩⟩
    · intro made
      cases saves.mpr made
  | ok _ =>
    cases outcome
    exact ⟨fun _ => saves.mp rfl, fun _ => ⟨_, rfl⟩⟩

end Made

/-- On a tree alone, too, what is made is held by its file. -/
theorem read_of_made (absent : tree.present path = false)
    (made : loadOrCreate FileTree.files path tree = (.ok s, tree')) :
    s = ⟨Config.standard, path⟩ ∧ tree'.read path = .ok Config.standard.pretty.toUTF8 := by
  have unseen : FileTree.files.present path tree = (false, tree) := congrArg (·, tree) absent
  rw [loadOrCreate_of_unseen unseen] at made
  generalize saved : save FileTree.files _ _ = outcome at made
  obtain ⟨outcome, after⟩ := outcome
  cases outcome with
  | error e => cases made
  | ok _ =>
    cases made
    have held := read_of_save saved
    exact ⟨rfl, held⟩

/-- **Settings that were made are not made again**: a second call that succeeds gives them and changes nothing. -/
theorem Saved.made_again (saved : Saved ⟨Config.standard, path⟩ tree (.ok ()) tree')
    {troubles : List (Option Trouble)} {later : Medium}
    (again : loadOrCreate Medium.files path ⟨tree', troubles⟩ = (.ok s, later)) :
    s = ⟨Config.standard, path⟩ ∧ later.tree = tree' := by
  cases seen : (Medium.files.present path ⟨tree', troubles⟩).1 with
  | true =>
    have held : tree'.read path = .ok Config.standard.pretty.toUTF8 := saved.read
    obtain ⟨result, rest, loaded, loads⟩ := load_medium held troubles
    rw [ofText_standard] at loads
    rw [loadOrCreate_of_seen seen, loaded] at again
    cases again
    cases loads with
    | held _ _ => exact ⟨rfl, rfl⟩
  | false =>
    rw [loadOrCreate_of_unseen (present_of_unseen seen)] at again
    generalize saves : save Medium.files _ _ = outcome at again
    obtain ⟨outcome, after⟩ := outcome
    cases outcome with
    | error e => cases again
    | ok _ =>
      cases again
      exact ⟨rfl, saved.again saves⟩

/-- **Settings are made on first use, and what is there is left alone**, on a medium that may fail at every step.
Settings that are seen are loaded. Where none are seen, they are made if the directories above them can be made and the
file can be written. They are the standard ones then; the file holds them, and they are loaded from it without a change
unless something goes wrong, and a second call that succeeds changes nothing. Where making them fails, no file is made
or changed but the one at the path, which may hold a front part of them. A file that is there stays as it is unless
nothing is at the path and the path backtracks, or the question whether anything is there goes wrong. A program that is
given a path loads what is there and changes nothing, and fails if nothing is. -/
theorem loadOrDefault_firstUse (env : String → Option String) (service : String) (custom : Option Path)
    (medium : Medium) :
    let path := custom.getD (fileOf env service)
    let call := loadOrDefault Medium.files (fun name => pure (env name)) service custom
    let seen := (Medium.files.present path medium).1
    (∃ result after, call medium = (result, after) ∧
      Careful path seen medium.tree result after.tree ∧ (medium.tree.Rooted → after.tree.Rooted) ∧
      (seen = true → load Medium.files path medium = (result, after)) ∧
      (seen = false → ((∃ s, result = .ok s) ↔ ∃ made place,
        Medium.files.createMissing (directories path) ⟨medium.tree, medium.troubles.tail⟩ = (.ok (), made) ∧
          made.tree.writePlace path = .ok place ∧ made.troubles.head?.join = none)) ∧
      (seen = false → ∀ s, result = .ok s →
        s = ⟨Config.standard, path⟩ ∧ after.tree.read path = .ok Config.standard.pretty.toUTF8 ∧
        ∀ troubles,
          (∃ result later, load Medium.files path ⟨after.tree, troubles⟩ = (result, ⟨after.tree, later⟩) ∧
            Loads path troubles (.ok s) result) ∧
          (∀ s' later, call ⟨after.tree, troubles⟩ = (.ok s', later) → s' = s ∧ later.tree = after.tree) ∧
          (troubles.head?.join = none →
            call ⟨after.tree, troubles⟩ = load Medium.files path ⟨after.tree, troubles⟩))) ∧
    ∀ path, start Medium.files (fun name => pure (env name)) service (some path) = load Medium.files path ∧
      load Medium.files.readOnly path = load Medium.files path ∧
      (∃ result later, load Medium.files path medium = (result, ⟨medium.tree, later⟩)) ∧
      (medium.tree.present path = false → (load Medium.files path medium).1 = .error (.notFound path)) := by
  intro path call seen
  constructor
  · have same : call = loadOrCreate Medium.files path := loadOrDefault_eq Medium.files env service custom
    obtain ⟨result, after, outcome⟩ : ∃ result after, loadOrCreate Medium.files path medium = (result, after) :=
      ⟨_, _, (Prod.eta _).symm⟩
    rw [same]
    refine ⟨result, after, outcome, careful_loadOrCreate outcome, ?_, ?_, ?_, ?_⟩
    · have kept := loadOrCreate_rel Medium.corresponding_rooted path medium
      rwa [outcome] at kept
    · intro seen
      rw [← loadOrCreate_of_seen seen, outcome]
    · exact fun unseen => loadOrCreate_ok_iff unseen outcome
    · rintro unseen s rfl
      obtain ⟨rfl, saved⟩ := saved_of_made unseen outcome
      have held : after.tree.read path = .ok Config.standard.pretty.toUTF8 := saved.read
      refine ⟨rfl, held, fun troubles => ⟨?_, fun s' later again => saved.made_again again, fun answered => ?_⟩⟩
      · have loaded := load_medium held troubles
        rwa [ofText_standard] at loaded
      · refine loadOrCreate_of_seen ?_
        rw [Medium.present_eq]
        dsimp only
        rw [answered]
        exact FileTree.present_of_read held
  · exact fun path => ⟨rfl, load_readOnly _ path, load_leaves path medium, load_medium_of_absent⟩

/-- A tree with one file in it. -/
theorem rooted_oneFile (text : String) : (oneFile text).Rooted where
  current := rfl
  around {place entry} found := by
    by_cases here : place = []
    · rw [here]
      rfl
    · by_cases there : place = ["settings.json"]
      · rw [there]
        rfl
      · rw [FileTree.find?, if_neg here, oneFile, List.lookup_cons, beq_eq_false_iff_ne.mpr there] at found
        cases found

/-- Settings that are made in a directory of their own beside other ones, which are broken and stay so. -/
theorem loadOrDefault_firstUse_beside :
    ∃ after, loadOrDefault Medium.files (fun _ => pure none) "rewardsync" (some ⟨"own/settings.json"⟩)
        ⟨oneFile "\x7b", []⟩ = (.ok ⟨Config.standard, ⟨"own/settings.json"⟩⟩, after) ∧
      (load Medium.files ⟨"own/settings.json"⟩ ⟨after.tree, []⟩).1 =
        .ok ⟨Config.standard, ⟨"own/settings.json"⟩⟩ ∧
      after.tree.find? ["settings.json"] = some (.file "\x7b".toUTF8) ∧
      (load Medium.files ⟨"own/settings.json"⟩ ⟨oneFile "\x7b", []⟩).1 =
        .error (.notFound ⟨"own/settings.json"⟩) := by
  have absent : (oneFile "\x7b").present ⟨"own/settings.json"⟩ = false := by decide +kernel
  obtain ⟨⟨result, after, given, careful, -, -, -, made⟩, loads⟩ :=
    loadOrDefault_firstUse (fun _ => none) "rewardsync" (some ⟨"own/settings.json"⟩) ⟨oneFile "\x7b", []⟩
  have succeeded : (loadOrDefault Medium.files (fun _ => pure none) "rewardsync" (some ⟨"own/settings.json"⟩)
      ⟨oneFile "\x7b", []⟩).1 = .ok ⟨Config.standard, ⟨"own/settings.json"⟩⟩ := by rfl
  rw [given] at succeeded
  obtain ⟨-, -, again⟩ := made absent _ succeeded
  obtain ⟨⟨loaded, later, same, untroubled⟩, -⟩ := again []
  have forward : ¬((oneFile "\x7b").present ⟨"own/settings.json"⟩ = false ∧
      (oneFile "\x7b").Backtracks ⟨"own/settings.json"⟩) := by
    rintro ⟨-, front, back, pieces, -⟩
    have up : ".." ∈ Path.pieces ⟨"own/settings.json"⟩ := by simp [pieces]
    exact absurd up (by decide)
  exact ⟨after, given.trans (congrArg (·, after) succeeded), (congrArg Prod.fst same).trans untroubled.untroubled,
    careful.kept (rooted_oneFile _) rfl forward rfl, (loads _).2.2.2 absent⟩

/-- Not every file stays as it is: settings are written over when their path steps up out of a missing directory, which
is made before they are. -/
theorem not_forall_unchanged :
    ¬∀ (env : String → Option String) (service : String) (custom : Option Path) (tree : FileTree) (place : Location)
        (contents : ByteArray), tree.Rooted → tree.find? place = some (.file contents) →
      (loadOrDefault FileTree.files (fun name => pure (env name)) service custom tree).2.find? place =
        some (.file contents) := by
  intro unchanged
  have kept := unchanged (fun _ => none) "rewardsync" (some ⟨"missing/../settings.json"⟩) (oneFile "\x7b\x7d")
    ["settings.json"] _ (rooted_oneFile _) rfl
  have written : (loadOrDefault FileTree.files (fun _ => pure none) "rewardsync"
      (some ⟨"missing/../settings.json"⟩) (oneFile "\x7b\x7d")).2.find? ["settings.json"] =
        some (.file Config.standard.pretty.toUTF8) := rfl
  have same := Text.fromUTF8?_eq_some_iff.mpr (Entry.file.inj (Option.some.inj (kept.symm.trans written)))
  rw [Text.fromUTF8?_eq_some_iff.mpr rfl] at same
  have longer : "\x7b\x7d" ≠ Config.standard.pretty := by decide +kernel
  exact longer (Option.some.inj same)

/-- A call that fails may leave a file where none was: the file is made, and then there is no room for it. -/
theorem not_forall_spared :
    ¬∀ (env : String → Option String) (service : String) (custom : Option Path) (medium after : Medium)
        (e : SettingsError),
      loadOrDefault Medium.files (fun name => pure (env name)) service custom medium = (.error e, after) →
        Spared (directories (custom.getD (fileOf env service))) none medium.tree after.tree := by
  intro spared
  -- The question whether settings are there is answered, and what is written breaks off at once.
  let full : Trouble := ⟨.other "No space left on device (os error 28)", some 0⟩
  let broken : Medium := ⟨⟨[(["settings.json"], .file (Config.standard.pretty.toUTF8.extract 0 0))], []⟩, []⟩
  have failed : loadOrDefault Medium.files (fun _ => pure none) "rewardsync" (some ⟨"settings.json"⟩)
      ⟨⟨[], []⟩, [none, some full]⟩ = (.error (.unwritable full.reason), broken) := by rfl
  have kept := spared (fun _ => none) "rewardsync" (some ⟨"settings.json"⟩) _ _ _ failed
  cases (kept.files ["settings.json"] _ nofun).mp rfl

end Settings

end Allotment
