import Allotment.Files.Tree
import Allotment.Proofs.Address
import Allotment.Proofs.Files.Basic
import Allotment.Proofs.Files.Tree
import Allotment.Proofs.Json.Restoring
import Allotment.Snapshot.Artifact

/-!
# A snapshot file holds its snapshot

Any snapshot at all is taken out of the text that it is written as (`Snapshot.decodeText_fileText`), also one that
contradicts itself. What was written to a path is read there (`Snapshot.read_write`): the snapshot, or just the
contradiction that `validate` finds in it.
-/

namespace Allotment

open Json

/-! ## Documents -/

theorem Address.restores_decoder : Address.decoder.Restores Address.toJson 0 where
  sound _ := rfl
  decode a depth enough := by
    have text := Decoder.restores_string.decode a.text enough
    rw [decoder, toJson, text, ok_bind, parse_text]
    rfl

/-- A record is taken out of its document. -/
theorem Record.restores_format : Record.format.decoder.Restores Record.format.write 2 := by
  have account := Field.restores_of Address.restores_decoder (σ := Record)
  have points := Field.restores_of Decoder.restores_uint64 (σ := Record)
  refine RecordFormat.restores (by decide) 0
    (fun r => [fun s => { s with account := r.account }, fun s => { s with devPoints := r.devPoints },
      fun s => { s with nodePoints := r.nodePoints }, fun s => { s with boundNodes := r.boundNodes }])
    (fun r => ?_) (fun r => rfl)
  exact .cons (account _ _ _ r).mandatory (.cons (points _ _ _ r).mandatory (.cons (points _ _ _ r).mandatory
    (.cons (points _ _ _ r) .nil)))

namespace Snapshot

/-- A snapshot is taken out of its document. -/
theorem restores_format : format.decoder.Restores format.write 4 := by
  have accounts := Field.restores_of ((Decoder.restores_list Address.restores_decoder).mono (by decide : 2 ≤ 3))
    (σ := Snapshot)
  have amounts := Field.restores_of ((Decoder.restores_list Decoder.restores_uint64).mono (by decide : 2 ≤ 3))
    (σ := Snapshot)
  have records := Field.restores_of (Decoder.restores_list Record.restores_format) (σ := Snapshot)
  refine RecordFormat.restores (by decide) 3
    (fun s => [fun t => { t with wallets := s.wallets }, fun t => { t with devAmounts := s.devAmounts },
      fun t => { t with nodeAmounts := s.nodeAmounts }, fun t => { t with raw := s.raw }])
    (fun s => ?_) (fun s => rfl)
  exact .cons (accounts _ _ _ s).mandatory (.cons (amounts _ _ _ s).mandatory (.cons (amounts _ _ _ s).mandatory
    (.cons (records _ _ _ s).mandatory .nil)))

/-- **Any snapshot is taken out of its text.** -/
theorem decodeText_fileText (s : Snapshot) : decodeText format.decoder s.fileText = .ok s :=
  restores_format.decodeText (by decide) s .pretty ['\n'] (List.forall_mem_singleton.mpr rfl)

/-- The text of a snapshot is taken for it unless it contradicts itself. -/
theorem ofFileText_fileText (path : Path) (s : Snapshot) :
    ofFileText path s.fileText =
      match s.validate with
      | .ok () => .ok s
      | .error fault => .error (.contradictory path fault) := by
  simp only [ofFileText, decodeText_fileText]
  cases s.validate with
  | ok _ => rfl
  | error fault => rfl

/-! ## Files -/

section Corresponding

variable {m n : Type → Type} [Monad m] [Monad n] {c : Claim.Correspondence m n} {files : Files m} {files' : Files n}

theorem write_rel (corresponding : Files.Corresponding c files files') (path : Path) (s : Snapshot) :
    c.rel (write files path s) (write files' path s) := by
  refine c.rel_bind (corresponding.createDirectories _) fun outcome => ?_
  cases outcome with
  | error cause => exact c.rel_pure _
  | ok _ =>
    refine c.rel_bind (corresponding.replace _ _ _) fun outcome => ?_
    cases outcome with
    | error cause => exact c.rel_pure _
    | ok _ => exact c.rel_pure _

theorem read_rel (corresponding : Files.Corresponding c files files') (path : Path) :
    c.rel (read files path) (read files' path) := by
  refine c.rel_bind (corresponding.readText path) fun outcome => ?_
  cases outcome with
  | error cause => exact c.rel_pure _
  | ok text => exact c.rel_pure _

end Corresponding

/-- Writing makes the directories, and then moves the file to its place by way of a draft. -/
theorem write_eq (path : Path) (s : Snapshot) (tree : FileTree) :
    write FileTree.files path s tree =
      match FileTree.files.createDirectories (directoryOf path) tree with
      | (.error cause, between) => (.error (.unwritable path cause), between)
      | (.ok (), between) =>
        match between.newDraft (directoryOf path) with
        | .error cause => (.error (.unwritable path cause), between)
        | .ok _ =>
          match between.movePlace path with
          | .error cause => (.error (.unwritable path cause), between)
          | .ok place => (.ok (), between.insert place (.file s.fileText.toUTF8)) := by
  simp only [write, bind, StateT.bind]
  generalize FileTree.files.createDirectories (directoryOf path) tree = made
  obtain ⟨outcome, between⟩ := made
  cases outcome with
  | error cause => rfl
  | ok _ =>
    simp only [StateT.bind, bind, FileTree.replace_eq]
    cases between.newDraft (directoryOf path) with
    | error cause => rfl
    | ok draft =>
      dsimp only
      cases between.movePlace path with
      | error cause => rfl
      | ok place => rfl

/-- Whether a file is written has nothing to do with what is written. -/
theorem write_outcome (path : Path) (s s' : Snapshot) (tree : FileTree) :
    (write FileTree.files path s tree).1 = (write FileTree.files path s' tree).1 := by
  rw [write_eq, write_eq]
  generalize FileTree.files.createDirectories (directoryOf path) tree = made
  obtain ⟨outcome, between⟩ := made
  cases outcome with
  | error cause => rfl
  | ok _ =>
    dsimp only
    cases between.newDraft (directoryOf path) with
    | error cause => rfl
    | ok draft =>
      dsimp only
      cases between.movePlace path with
      | error cause => rfl
      | ok place => rfl

/-- A file of text is read as what the text says. -/
theorem read_of_text {path : Path} {tree : FileTree} {text : String} (found : tree.read path = .ok text.toUTF8) :
    read FileTree.files path tree = (ofFileText path text, tree) := by
  simp only [read, bind, StateT.bind, FileTree.readText_eq, found, Except.bind, Files.textOf_toUTF8]
  rfl

/-- What was written to a path is read at that path. -/
theorem read_of_write {path : Path} {s : Snapshot} {tree tree' : FileTree}
    (written : write FileTree.files path s tree = (.ok (), tree')) :
    read FileTree.files path tree' = (ofFileText path s.fileText, tree') := by
  rw [write_eq] at written
  generalize FileTree.files.createDirectories (directoryOf path) tree = made at written
  obtain ⟨outcome, between⟩ := made
  cases outcome with
  | error cause => cases written
  | ok _ =>
    dsimp only at written
    cases drafted : between.newDraft (directoryOf path) with
    | error cause =>
      rw [drafted] at written
      cases written
    | ok draft =>
      rw [drafted] at written
      dsimp only at written
      cases moves : between.movePlace path with
      | error cause =>
        rw [moves] at written
        cases written
      | ok place =>
        rw [moves] at written
        obtain rfl := (Prod.mk.inj written).2
        exact read_of_text (FileTree.read_of_movePlace moves s.fileText.toUTF8)

/-- **What was written is read back.** Whatever snapshot it is, the text of its file is read as that snapshot, and
after it was written to a path, reading at that path gives the snapshot, or the contradiction that is found in it. -/
theorem read_write (s : Snapshot) :
    decodeText format.decoder s.fileText = .ok s ∧
    ∀ (path : Path) (tree tree' : FileTree), write FileTree.files path s tree = (.ok (), tree') →
      read FileTree.files path tree' =
        (match s.validate with
          | .ok () => .ok s
          | .error fault => .error (.contradictory path fault), tree') := by
  refine ⟨s.decodeText_fileText, fun path tree tree' written => ?_⟩
  rw [read_of_write written, ofFileText_fileText]

/-- A snapshot without records is written all the same, into a directory that is made for it, and found out. -/
theorem read_write_misaligned :
    ∃ (s : Snapshot) (tree : FileTree), write FileTree.files ⟨"out/snapshot.json"⟩ s ⟨[], []⟩ = (.ok (), tree) ∧
      read FileTree.files ⟨"out/snapshot.json"⟩ tree =
        (.error (.contradictory ⟨"out/snapshot.json"⟩ (.misaligned 1 1 0 0)), tree) := by
  have succeeds : (write FileTree.files ⟨"out/snapshot.json"⟩ ⟨[⟨Vector.replicate 20 0x33⟩], [7], [], []⟩ ⟨[], []⟩).1 =
      .ok () := by rfl
  rcases written : write FileTree.files ⟨"out/snapshot.json"⟩ ⟨[⟨Vector.replicate 20 0x33⟩], [7], [], []⟩ ⟨[], []⟩
    with ⟨result, tree⟩
  rw [written] at succeeds
  obtain rfl : result = .ok () := succeeds
  exact ⟨_, tree, written, (read_write _).2 _ _ _ written⟩

end Snapshot

end Allotment
