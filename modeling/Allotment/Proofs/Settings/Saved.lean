import Allotment.Proofs.Command.Planning
import Allotment.Proofs.Files.Medium
import Allotment.Proofs.Files.Parent
import Allotment.Proofs.Settings.Text
import Allotment.Settings.Store

/-!
# Settings that were saved are loaded

- On a medium that may fail, saving makes directories and then writes one file in place, as a whole, or in part, or not
  at all (`Settings.saved_save`); saving again changes nothing (`Settings.Saved.again`);
- on a tree alone saving does so at once (`Settings.save_eq`), whatever is saved (`Settings.save_outcome`): it succeeds
  where the file is there already (`Settings.save_of_read`), and where it succeeded once (`Settings.save_again`);
- loading gives what the text of the file says, unless something goes wrong (`Settings.load_medium`);
- settings that were read from a text are loaded as they were saved just if the limit allows for their nesting
  (`Settings.load_save`). It does unless a text is embedded in the text, which may be nested as deep again once it is
  written out (`Settings.load_save_too_deep`).
-/

namespace Allotment.Settings

open Json
open FileTree (Spared)

/-! ## Saving -/

/-- The directories that are made before settings are saved, longest first. -/
def directories (path : Path) : List Path :=
  match path.parent? with
  | none => []
  | some parent => if parent.text.isEmpty then [] else parent.ancestors

/-- What saving does: it makes directories, and then it writes the file. -/
theorem save_apply {σ : Type} (files : Files (StateM σ)) (s : Settings) (state : σ) :
    save files s state =
      match files.createMissing (directories s.path) state with
      | (.error cause, made) => (.error (.noDirectory cause), made)
      | (.ok (), made) =>
        match files.write s.path s.config.pretty.toUTF8 made with
        | (.error cause, after) => (.error (.unwritable cause), after)
        | (.ok (), after) => (.ok (), after) := by
  have written (made : σ) : write files s made =
      match files.write s.path s.config.pretty.toUTF8 made with
      | (.error cause, after) => (.error (.unwritable cause), after)
      | (.ok (), after) => (.ok (), after) := by
    simp only [write, bind, StateT.bind]
    generalize files.write s.path s.config.pretty.toUTF8 made = wrote
    obtain ⟨outcome, after⟩ := wrote
    cases outcome with
    | error cause => rfl
    | ok _ => rfl
  unfold save directories
  cases s.path.parent? with
  | none => exact written state
  | some parent =>
    dsimp only
    by_cases here : parent.text.isEmpty = true
    case pos =>
      rw [if_pos here, if_pos here]
      exact written state
    case neg =>
      rw [if_neg here, if_neg here]
      simp only [Files.createDirectories, bind, StateT.bind]
      generalize files.createMissing parent.ancestors state = made
      obtain ⟨outcome, made⟩ := made
      cases outcome with
      | error cause => rfl
      | ok _ => exact written made

variable {path : Path} {tree tree' : FileTree} {s : Settings}

/-- What saving comes to: directories may have been made on the way to the file. The file is written if saving succeeds,
and otherwise a front part of it at most. -/
inductive Saved (s : Settings) (tree : FileTree) : Except SettingsError Unit → FileTree → Prop where
  | kept (e : SettingsError) {made : FileTree} : Spared (directories s.path) none tree made →
      Saved s tree (.error e) made
  | front (cause : FileError) {made : FileTree} {place : Location} (bytes : Nat) :
      Spared (directories s.path) none tree made → made.writePlace s.path = .ok place →
      Saved s tree (.error (.unwritable cause))
        (made.insert place (.file (s.config.pretty.toUTF8.extract 0 bytes)))
  | whole {made : FileTree} {place : Location} :
      Spared (directories s.path) none tree made → made.writePlace s.path = .ok place →
      Saved s tree (.ok ()) (made.insert place (.file s.config.pretty.toUTF8))

/-- **What saving comes to**, whatever goes wrong. -/
theorem saved_save (s : Settings) (medium : Medium) :
    Saved s medium.tree (save Medium.files s medium).1 (save Medium.files s medium).2.tree := by
  have spared := Medium.createMissing_sparing (directories s.path) medium
  rw [save_apply]
  generalize Medium.files.createMissing (directories s.path) medium = made at spared ⊢
  obtain ⟨outcome, made⟩ := made
  cases outcome with
  | error cause => exact .kept _ spared
  | ok _ =>
    have wrote := Medium.wrote_write s.path s.config.pretty.toUTF8 made
    dsimp only at spared ⊢
    generalize Medium.files.write s.path s.config.pretty.toUTF8 made = written at wrote ⊢
    obtain ⟨outcome, after, troubles⟩ := written
    cases wrote with
    | kept cause => exact .kept _ spared
    | front cause bytes writes => exact .front cause bytes spared writes
    | whole writes => exact .whole spared writes

/-- Saving succeeds just where the directories can be made, and the file can be written then and nothing goes wrong
with it. -/
theorem save_ok_iff (s : Settings) (medium : Medium) :
    (save Medium.files s medium).1 = .ok () ↔ ∃ made place,
      Medium.files.createMissing (directories s.path) medium = (.ok (), made) ∧
        made.tree.writePlace s.path = .ok place ∧ made.troubles.head?.join = none := by
  rw [save_apply]
  generalize Medium.files.createMissing (directories s.path) medium = first
  obtain ⟨outcome, made⟩ := first
  cases outcome with
  | error cause => exact ⟨nofun, fun ⟨_, _, same, _⟩ => nomatch same⟩
  | ok _ =>
    have writes : (Medium.files.write s.path s.config.pretty.toUTF8 made).1 = .ok () ↔ _ := Medium.write_ok_iff
    dsimp only
    generalize Medium.files.write s.path s.config.pretty.toUTF8 made = written at writes ⊢
    obtain ⟨outcome, after⟩ := written
    cases outcome with
    | error cause =>
      refine ⟨nofun, ?_⟩
      rintro ⟨_, place, ⟨⟩, free, quiet⟩
      exact nomatch writes.mpr ⟨⟨place, free⟩, quiet⟩
    | ok _ =>
      obtain ⟨⟨place, free⟩, quiet⟩ := writes.mp rfl
      exact ⟨fun _ => ⟨made, place, rfl, free, quiet⟩, fun _ => rfl⟩

theorem Saved.of_ok (saved : Saved s tree (.ok ()) tree') : ∃ made place,
    Spared (directories s.path) none tree made ∧ made.writePlace s.path = .ok place ∧
      tree' = made.insert place (.file s.config.pretty.toUTF8) := by
  cases saved with
  | whole spared writes => exact ⟨_, _, spared, writes, rfl⟩

/-- The file that was saved holds the configuration. -/
theorem Saved.read (saved : Saved s tree (.ok ()) tree') : tree'.read s.path = .ok s.config.pretty.toUTF8 := by
  obtain ⟨made, place, -, writes, rfl⟩ := saved.of_ok
  exact FileTree.read_of_writePlace writes _

/-- All directories above a file that is there are there. -/
theorem isDirectory_directories {place : Location} {contents : ByteArray}
    (resolved : tree.resolve path = .ok (place, .file contents)) :
    ∀ above ∈ directories path, tree.isDirectory above = true := by
  unfold directories
  cases next : path.parent? with
  | none => exact fun _ => nofun
  | some parent =>
    dsimp only
    split
    case isTrue => exact fun _ => nofun
    case isFalse named =>
      exact FileTree.isDirectory_ancestors (FileTree.isDirectory_parent resolved next (by simpa using named))

/-- **Saving again changes nothing**, in the file or anywhere else. -/
theorem Saved.again (saved : Saved s tree (.ok ()) tree') {troubles : List (Option Trouble)} {later : Medium}
    (again : save Medium.files s ⟨tree', troubles⟩ = (.ok (), later)) : later.tree = tree' := by
  obtain ⟨made, place, -, writes, rfl⟩ := saved.of_ok
  obtain ⟨there, resolved⟩ := FileTree.resolve_of_read (FileTree.read_of_writePlace writes s.config.pretty.toUTF8)
  have same := Medium.createMissing_leaving (isDirectory_directories resolved)
    ⟨made.insert place (.file s.config.pretty.toUTF8), troubles⟩ rfl
  rw [save_apply] at again
  generalize Medium.files.createMissing (directories s.path) _ = first at again same
  obtain ⟨outcome, between⟩ := first
  cases outcome with
  | error cause => cases again
  | ok _ =>
    have wrote := Medium.wrote_write s.path s.config.pretty.toUTF8 between
    dsimp only at again same
    generalize Medium.files.write s.path s.config.pretty.toUTF8 between = written at again wrote
    obtain ⟨outcome, after⟩ := written
    cases outcome with
    | error cause => cases again
    | ok _ =>
      cases again
      rw [same] at wrote
      generalize later.tree = ended at wrote ⊢
      cases wrote with
      | whole writesAgain =>
        rw [FileTree.writePlace_again writes] at writesAgain
        cases writesAgain
        exact FileTree.insert_insert made place _ _

/-! ## Saving to a tree alone -/

/-- Whether saving succeeds depends on the path and the tree, not on the configuration. -/
theorem save_eq (s : Settings) (tree : FileTree) :
    save FileTree.files s tree =
      match FileTree.files.createMissing (directories s.path) tree with
      | (.error cause, made) => (.error (.noDirectory cause), made)
      | (.ok (), made) =>
        match made.writePlace s.path with
        | .error cause => (.error (.unwritable cause), made)
        | .ok place => (.ok (), made.insert place (.file s.config.pretty.toUTF8)) := by
  rw [save_apply]
  generalize FileTree.files.createMissing (directories s.path) tree = first
  obtain ⟨outcome, made⟩ := first
  cases outcome with
  | error cause => rfl
  | ok _ =>
    have one : FileTree.files.write s.path s.config.pretty.toUTF8 made =
        made.put (made.writePlace s.path) (.file s.config.pretty.toUTF8) := rfl
    dsimp only
    rw [one]
    cases made.writePlace s.path with
    | error cause => rfl
    | ok place => rfl

theorem save_eq_ok (saved : save FileTree.files s tree = (.ok (), tree')) :
    ∃ made place, FileTree.files.createMissing (directories s.path) tree = (.ok (), made) ∧
      made.writePlace s.path = .ok place ∧ tree' = made.insert place (.file s.config.pretty.toUTF8) := by
  rw [save_eq] at saved
  generalize FileTree.files.createMissing (directories s.path) tree = first at saved
  obtain ⟨outcome, made⟩ := first
  cases outcome with
  | error cause => cases saved
  | ok _ =>
    dsimp only at saved
    cases writes : made.writePlace s.path with
    | error cause => rw [writes] at saved; cases saved
    | ok place =>
      rw [writes] at saved
      cases saved
      exact ⟨made, place, rfl, writes, rfl⟩

/-- A tree takes all configurations or none. -/
theorem save_outcome (c other : Config) (path : Path) (tree : FileTree) :
    (save FileTree.files ⟨c, path⟩ tree).1 = (save FileTree.files ⟨other, path⟩ tree).1 := by
  rw [save_eq, save_eq]
  generalize FileTree.files.createMissing (directories path) tree = first
  obtain ⟨outcome, made⟩ := first
  cases outcome with
  | error cause => rfl
  | ok _ =>
    dsimp only
    cases made.writePlace path with
    | error cause => rfl
    | ok place => rfl

/-- The file that was saved holds the configuration. -/
theorem read_of_save (saved : save FileTree.files s tree = (.ok (), tree')) :
    tree'.read s.path = .ok s.config.pretty.toUTF8 := by
  obtain ⟨made, place, -, writes, rfl⟩ := save_eq_ok saved
  exact FileTree.read_of_writePlace writes _

/-- What a tree took it takes again, and is not changed. -/
theorem save_again (saved : save FileTree.files s tree = (.ok (), tree')) :
    save FileTree.files s tree' = (.ok (), tree') := by
  obtain ⟨made, place, directories, writes, rfl⟩ := save_eq_ok saved
  have keeps := FileTree.keeps_of_writePlace writes s.config.pretty.toUTF8
  rw [save_eq, FileTree.createMissing_again directories keeps]
  dsimp only
  rw [FileTree.writePlace_again writes]
  exact Prod.ext rfl (FileTree.insert_insert made place _ _)

/-- No directories are made above a file that is there. -/
theorem createMissing_directories {place : Location} {contents : ByteArray}
    (resolved : tree.resolve path = .ok (place, .file contents)) :
    FileTree.files.createMissing (directories path) tree = (.ok (), tree) := by
  have there := isDirectory_directories resolved
  cases above : directories path with
  | nil => rfl
  | cons parent further =>
    rw [above] at there
    exact FileTree.createMissing_of_isDirectory further (there parent List.mem_cons_self)

/-- **Settings are saved where a file is already**, and then just the file changes. -/
theorem save_of_read {contents : ByteArray} (there : tree.read s.path = .ok contents) :
    ∃ place, save FileTree.files s tree = (.ok (), tree.insert place (.file s.config.pretty.toUTF8)) := by
  obtain ⟨place, resolved⟩ := FileTree.resolve_of_read there
  refine ⟨place, ?_⟩
  rw [save_eq, createMissing_directories resolved]
  dsimp only
  rw [FileTree.writePlace_of_resolve resolved]

/-! ## Loading -/

/-- What loading does: it asks whether something is there, and then it reads the file. -/
theorem load_apply {σ : Type} (files : Files (StateM σ)) (path : Path) (state : σ) :
    load files path state =
      match files.present path state with
      | (false, state) => (.error (.notFound path), state)
      | (true, state) => read files path state := by
  simp only [load, bind, StateT.bind]
  generalize files.present path state = asked
  obtain ⟨there, state⟩ := asked
  cases there with
  | false => rfl
  | true => rfl

/-- What reading does: the contents are a text, and the text is decoded. -/
theorem read_apply {σ : Type} (files : Files (StateM σ)) (path : Path) (state : σ) :
    read files path state =
      match files.read path state with
      | (.error cause, state) => (.error (.unreadable cause), state)
      | (.ok contents, state) =>
        (match Files.textOf contents with
          | .error cause => .error (.unreadable cause)
          | .ok text =>
            match Config.ofText text with
            | .error fault => .error (.undecodable path fault)
            | .ok config => .ok ⟨config, path⟩, state) := by
  simp only [read, readConfig, Files.readText, bind, StateT.bind]
  generalize files.read path state = asked
  obtain ⟨outcome, state⟩ := asked
  cases outcome with
  | error cause => rfl
  | ok contents =>
    simp only [stateM_pure_apply]
    cases Files.textOf contents with
    | error cause => rfl
    | ok text =>
      dsimp only
      cases Config.ofText text with
      | error fault => rfl
      | ok config => rfl

/-- What loading settings comes to that are held in a file: the file is looked for and read, and either may go wrong. -/
inductive Loads (path : Path) (troubles : List (Option Trouble)) (held : Except SettingsError Settings) :
    Except SettingsError Settings → Prop where
  | held : troubles.head?.join = none → troubles.tail.head?.join = none → Loads path troubles held held
  | unseen {trouble : Trouble} : troubles.head?.join = some trouble → Loads path troubles held (.error (.notFound path))
  | unread {trouble : Trouble} : troubles.head?.join = none → troubles.tail.head?.join = some trouble →
      Loads path troubles held (.error (.unreadable trouble.reason))

/-- The settings that a text holds. -/
def ofText (path : Path) (text : String) : Except SettingsError Settings :=
  match Config.ofText text with
  | .error fault => .error (.undecodable path fault)
  | .ok config => .ok ⟨config, path⟩

theorem Loads.untroubled {held result : Except SettingsError Settings} (loads : Loads path [] held result) :
    result = held := by
  cases loads with
  | held _ _ => rfl
  | unseen first => cases first
  | unread _ second => cases second

/-- **Loading gives what the text of the file says**, unless something goes wrong, and changes nothing. -/
theorem load_medium {text : String} (held : tree.read path = .ok text.toUTF8) (troubles : List (Option Trouble)) :
    ∃ result later, load Medium.files path ⟨tree, troubles⟩ = (result, ⟨tree, later⟩) ∧
      Loads path troubles (ofText path text) result := by
  rw [load_apply, Medium.present_eq]
  cases first : troubles.head?.join with
  | some trouble =>
    exact ⟨_, _, rfl, .unseen first⟩
  | none =>
    dsimp only
    rw [FileTree.present_of_read held]
    dsimp only
    rw [read_apply, Medium.read_eq]
    cases second : troubles.tail.head?.join with
    | some trouble =>
      exact ⟨_, _, rfl, .unread first second⟩
    | none =>
      dsimp only
      rw [held]
      dsimp only
      rw [Files.textOf_toUTF8]
      exact ⟨_, _, rfl, .held first second⟩

/-- From a tree alone settings are loaded as their text is read. -/
theorem load_of_read {text : String} (held : tree.read path = .ok text.toUTF8) :
    load FileTree.files path tree = (ofText path text, tree) := by
  have there : FileTree.files.present path tree = (true, tree) := by
    show (tree.present path, tree) = _
    rw [FileTree.present_of_read held]
  have asked : FileTree.files.read path tree = (.ok text.toUTF8, tree) := congrArg (·, tree) held
  rw [load_apply, there]
  dsimp only
  rw [read_apply, asked]
  dsimp only
  rw [Files.textOf_toUTF8]
  rfl

/-! ## Tables with one value -/

/-- An empty array inside of more arrays. -/
def nested : (more : Nat) → Json
  | 0 => .array []
  | more + 1 => .array [nested more]

theorem nesting_nested (more : Nat) : (nested more).nesting = more + 1 := by
  induction more with
  | zero => rfl
  | succ more ih => rw [nested, nesting, itemsNesting, itemsNesting, ih, Nat.max_zero]

theorem regular_nested (more : Nat) : (nested more).Regular := by
  induction more with
  | zero => trivial
  | succ more ih => exact ⟨ih, trivial⟩

theorem isExact_nested (more : Nat) : (nested more).isExact = true := by
  induction more with
  | zero => rfl
  | succ more ih => rw [nested, isExact, exactItems, exactItems, ih, Bool.and_true]

theorem compact_nested_ne_empty (more : Nat) : (nested more).compact ≠ "" := by
  intro empty
  have none := congrArg String.toList empty
  rw [compact, render, String.toList_ofList] at none
  cases more with
  | zero => cases none
  | succ more => cases none

/-- The standard configuration with one entry in a table of points. -/
def listing (value : Json) : Config :=
  { Config.standard with snapshot := { SnapshotSettings.standard with devPoints := [("a", value)] } }

theorem nesting_listing (value : Json) : (Config.format.write (listing value)).nesting = value.nesting + 3 := by
  rw [Config.nesting_write]
  show max (max value.nesting 0) 0 + 3 = _
  rw [Nat.max_zero, Nat.max_zero]

/-- The tree with one file of settings. -/
def oneFile (text : String) : FileTree := ⟨[(["settings.json"], .file text.toUTF8)], []⟩

theorem read_oneFile (text : String) : (oneFile text).read ⟨"settings.json"⟩ = .ok text.toUTF8 := rfl

theorem exactMembers_listing {value : Json} (exact : value.isExact = true) :
    exactMembers (listing value).snapshot.devPoints = true :=
  Bool.and_eq_true_iff.mpr ⟨exact, rfl⟩

theorem exactMembers_nodePoints (value : Json) : exactMembers (listing value).snapshot.nodePoints = true := rfl

theorem ofText_listing {value : Json} (regular : value.Regular) (exact : value.isExact = true) :
    Config.ofText (listing value).pretty = allowed (value.nesting + 3 < Depth.outermost) (listing value) := by
  have dev : Decoder.object.Fits .object (listing value).snapshot.devPoints :=
    Decoder.fits_object (List.nodup_singleton _) ⟨regular, trivial⟩ (exactMembers_listing exact)
  have node : Decoder.object.Fits .object (listing value).snapshot.nodePoints :=
    Decoder.fits_object List.nodup_nil trivial (exactMembers_nodePoints value)
  rw [Config.ofText_pretty dev node]
  exact if_congr (by rw [nesting_listing]) rfl rfl

/-- A text of settings with one entry in a table of points, whose value is embedded as a text. -/
def embedding (value : Json) : String :=
  (Json.object [("snapshot", .object [("dev_points",
    .object [("a", .object [(Decoder.embeddedName, .string value.compact)])])])]).pretty

/-- An embedded value is read however deep the place is where it is embedded. -/
theorem ofText_embedding {value : Json} (regular : value.Regular) (exact : value.isExact = true)
    (nonempty : value.compact ≠ "") (shallow : value.nesting < Depth.outermost) :
    Config.ofText (embedding value) = .ok (listing value) := by
  have embedded : Decoder.valueWith Decoder.embeddedValue (126 - 1)
      (Json.object [(Decoder.embeddedName, .string value.compact)]).document = .ok value :=
    (Decoder.value_embedded regular exact nonempty (by decide)).trans (allowed_of_true shallow)
  have table : Decoder.object 126
      (Json.object [("a", .object [(Decoder.embeddedName, .string value.compact)])]).document = .ok [("a", value)] := by
    rw [document, memberDocuments, memberDocuments, Decoder.object, Decoder.enter_of_le (by decide),
      Decoder.membersWith, Decoder.memberName, decodePieces_pieceOf, ok_bind, embedded]
    rfl
  have snapshot : SnapshotSettings.format.decoder 127 (Json.object [("dev_points", _)]).document = .ok _ :=
    SnapshotSettings.format.decoder_member (by decide) (by decide) (.tail _ (.head _)) (by decide)
      (congrArg (Except.map _) table)
  have whole : Config.format.decoder Depth.outermost (Json.object [("snapshot", _)]).document = .ok _ :=
    Config.format.decoder_member (by decide) (by decide) (.tail _ (.head _)) (by decide)
      (congrArg (Except.map _) snapshot)
  exact (decodeText_render _ (sound_document _) .pretty).trans whole

/-- **A text that embeds a deep value is lost when it is saved**: it is read, and what was saved is refused. -/
theorem load_save_embedding {value : Json} (regular : value.Regular) (exact : value.isExact = true)
    (nonempty : value.compact ≠ "") (shallow : value.nesting < Depth.outermost)
    (deep : ¬value.nesting + 3 < Depth.outermost) :
    ∃ tree', load FileTree.files ⟨"settings.json"⟩ (oneFile (embedding value)) =
        (.ok ⟨listing value, ⟨"settings.json"⟩⟩, oneFile (embedding value)) ∧
      save FileTree.files ⟨listing value, ⟨"settings.json"⟩⟩ (oneFile (embedding value)) = (.ok (), tree') ∧
      load FileTree.files ⟨"settings.json"⟩ tree' = (.error (.undecodable ⟨"settings.json"⟩ .malformed), tree') := by
  have given := ofText_embedding regular exact nonempty shallow
  have refused := (ofText_listing regular exact).trans (allowed_of_false deep)
  have held := read_oneFile (embedding value)
  obtain ⟨place, saved⟩ := save_of_read (s := ⟨listing value, ⟨"settings.json"⟩⟩) held
  refine ⟨_, ?_, saved, ?_⟩
  · rw [load_of_read held, ofText, given]
  · rw [load_of_read (read_of_save saved), ofText, refused]

/-! ## Saving and loading -/

/-- **Settings that were read from a text are loaded as they were saved**, provided that their tables are exact, just
if the limit allows for their nesting: it does unless a text is embedded. Whatever went wrong before they were saved,
the file holds their text then. They are loaded from it unless something goes wrong anew, and if they are saved again,
nothing changes. -/
theorem load_save {text : String} {c : Config} (given : Config.ofText text = .ok c)
    (dev : exactMembers c.snapshot.devPoints = true) (node : exactMembers c.snapshot.nodePoints = true) :
    ((Json.read text).document.embeds = false → (Config.format.write c).nesting < Depth.outermost) ∧
    ∀ path medium saved, save Medium.files ⟨c, path⟩ medium = (.ok (), saved) →
      saved.tree.read path = .ok c.pretty.toUTF8 ∧
      (∀ troubles, ∃ result later,
        load Medium.files path ⟨saved.tree, troubles⟩ = (result, ⟨saved.tree, later⟩) ∧
        Loads path troubles (if (Config.format.write c).nesting < Depth.outermost then .ok ⟨c, path⟩
          else .error (.undecodable path .malformed)) result) ∧
      ∀ troubles later, save Medium.files ⟨c, path⟩ ⟨saved.tree, troubles⟩ = (.ok (), later) →
        later.tree = saved.tree := by
  refine ⟨Config.nesting_lt_of_ofText given, fun path medium after succeeds => ?_⟩
  have saved := saved_save ⟨c, path⟩ medium
  rw [succeeds] at saved
  refine ⟨saved.read, fun troubles => ?_, fun troubles later again => saved.again again⟩
  have decoded : ofText path c.pretty = if (Config.format.write c).nesting < Depth.outermost then .ok ⟨c, path⟩
      else .error (.undecodable path .malformed) := by
    rw [ofText, Config.ofText_pretty_of_ofText given dev node]
    by_cases fits : (Config.format.write c).nesting < Depth.outermost
    case pos => rw [allowed_of_true fits, if_pos fits]
    case neg => rw [allowed_of_false fits, if_neg fits]
  rw [← decoded]
  exact load_medium saved.read troubles

/-- Settings with arrays in a table are saved and loaded. -/
theorem load_save_nested :
    let s : Settings := ⟨listing (nested 2), ⟨"settings.json"⟩⟩
    Config.ofText s.config.pretty = .ok s.config ∧
    exactMembers s.config.snapshot.devPoints = true ∧ exactMembers s.config.snapshot.nodePoints = true ∧
    ∃ saved later, save Medium.files s ⟨oneFile "\x7b\x7d", []⟩ = (.ok (), saved) ∧
      saved.tree.read s.path = .ok s.config.pretty.toUTF8 ∧
      load Medium.files s.path ⟨saved.tree, []⟩ = (.ok s, ⟨saved.tree, later⟩) := by
  intro s
  have given : Config.ofText s.config.pretty = .ok s.config :=
    (ofText_listing (regular_nested 2) (isExact_nested 2)).trans (allowed_of_true (by decide))
  obtain ⟨place, written⟩ := save_of_read (s := s) (read_oneFile "\x7b\x7d")
  have succeeds := save_rel Medium.corresponding_untroubled s (oneFile "\x7b\x7d")
  rw [written] at succeeds
  obtain ⟨-, saves⟩ := load_save given rfl rfl
  obtain ⟨held, loads, -⟩ := saves _ _ _ succeeds
  obtain ⟨result, later, loaded, comes⟩ := loads []
  rw [comes.untroubled, if_pos (by rw [nesting_listing]; decide)] at loaded
  exact ⟨given, rfl, rfl, _, later, succeeds, held, loaded⟩

/-- Arrays that nearly fill the limit on their own are lost when they were embedded. -/
theorem load_save_too_deep :
    Config.ofText (embedding (nested 124)) = .ok (listing (nested 124)) ∧
    exactMembers (listing (nested 124)).snapshot.devPoints = true ∧
    exactMembers (listing (nested 124)).snapshot.nodePoints = true ∧
    ∃ tree', save FileTree.files ⟨listing (nested 124), ⟨"settings.json"⟩⟩ (oneFile (embedding (nested 124))) =
        (.ok (), tree') ∧
      load FileTree.files ⟨"settings.json"⟩ tree' = (.error (.undecodable ⟨"settings.json"⟩ .malformed), tree') := by
  have shallow : (nested 124).nesting < Depth.outermost := by rw [nesting_nested]; decide
  have deep : ¬(nested 124).nesting + 3 < Depth.outermost := by rw [nesting_nested]; decide
  have given := ofText_embedding (regular_nested 124) (isExact_nested 124) (compact_nested_ne_empty 124) shallow
  obtain ⟨tree', -, saved, refused⟩ := load_save_embedding (regular_nested 124) (isExact_nested 124)
    (compact_nested_ne_empty 124) shallow deep
  exact ⟨given, exactMembers_listing (isExact_nested 124), exactMembers_nodePoints _, tree', saved, refused⟩

end Allotment.Settings
