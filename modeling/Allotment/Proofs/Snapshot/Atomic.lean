import Allotment.Proofs.Files.Medium
import Allotment.Proofs.Plan.Snapshot

/-!
# A snapshot file is written whole or not at all

On a medium where any operation may fail, writing a snapshot comes to one of two things (`Snapshot.Written`): all files
are as they were, or the file at the path is that of the snapshot and all others are as they were. This is so for
writing alone (`Snapshot.written_write`) and for making a planned snapshot (`SnapshotPlan.run_written`).
-/

namespace Allotment

open FileTree (Spared)

namespace Snapshot

/-- What writing a snapshot to a path comes to. No draft is left behind in either case, since no file is added. -/
inductive Written {ε α : Type} (path : Path) (s : Snapshot) (tree : FileTree) : Except ε α → FileTree → Prop where
  | kept (e : ε) {tree' : FileTree} : Spared (directoryOf path).ancestors none tree tree' →
      (∀ path' contents, tree.read path' = .ok contents → tree'.read path' = .ok contents) →
      Written path s tree (.error e) tree'
  | replaced (a : α) {place : Location} {tree' : FileTree} :
      tree'.resolve path = .ok (place, .file (s.pretty ++ "\n").toUTF8) →
      tree'.read path = .ok (s.pretty ++ "\n").toUTF8 →
      Spared (directoryOf path).ancestors (some place) tree tree' → Written path s tree (.ok a) tree'

/-- **Writing is all or nothing.** -/
theorem written_write (s : Snapshot) (path : Path) (medium : Medium) :
    Written path s medium.tree (s.write Medium.files path medium).1 (s.write Medium.files path medium).2.tree := by
  have spared := Medium.createDirectories_sparing (directoryOf path) medium
  simp only [write, bind, StateT.bind]
  generalize Medium.files.createDirectories (directoryOf path) medium = made at spared ⊢
  obtain ⟨outcome, between⟩ := made
  cases outcome with
  | error cause => exact .kept _ spared fun _ _ => spared.read
  | ok _ =>
    simp only [StateT.bind, bind]
    rcases Medium.replace_medium (directoryOf path) path s.fileText.toUTF8 between with
      ⟨e, troubles, failed⟩ | ⟨there, troubles, moves, succeeded⟩
    · rw [failed]
      exact .kept _ spared fun _ _ => spared.read
    · rw [succeeded]
      obtain ⟨parent, name, -, named, free⟩ := FileTree.movePlace_eq_ok moves
      have below : there ≠ [] := FileTree.ne_nil_of_child named
      refine .replaced () (FileTree.resolve_of_movePlace moves _) (FileTree.read_of_movePlace moves _) ?_
      exact spared.trans (FileTree.spared_insert_file free below _)

end Snapshot

/-! ## A host whose files are on a medium -/

namespace Medium

variable {σ α : Type}

/-- Something done to a medium beside which there is more. -/
def onMedium (act : StateM Medium α) : StateM (Medium × σ) α := fun (medium, w) =>
  let (a, medium) := act medium
  (a, medium, w)

/-- Something done to what is beside a medium. -/
def beside (act : StateM σ α) : StateM (Medium × σ) α := fun (medium, w) =>
  let (a, w) := act w
  (a, medium, w)

theorem onMedium_apply (act : StateM Medium α) (medium : Medium) (w : σ) :
    onMedium act (medium, w) = ((act medium).1, (act medium).2, w) := rfl

theorem beside_apply (act : StateM σ α) (medium : Medium) (w : σ) :
    beside act (medium, w) = ((act w).1, medium, (act w).2) := rfl

/-- A host with its files on a medium, where nothing but the files has to do with the medium. -/
def host (others : Host (StateM σ)) : Host (StateM (Medium × σ)) where
  files := files.lift onMedium
  environment name := beside (others.environment name)
  transport := others.transport.lift beside
  print text := beside (others.print text)
  pause milliseconds := beside (others.pause milliseconds)

/-- A computation that is one on the medium. -/
def mediumCorrespondence (σ : Type) : Claim.Correspondence (StateM (Medium × σ)) (StateM Medium) :=
  .along onMedium (fun _ => rfl) (fun _ _ => rfl)

/-- A computation that is one on what is beside the medium. -/
def besideCorrespondence (σ : Type) : Claim.Correspondence (StateM (Medium × σ)) (StateM σ) :=
  .along beside (fun _ => rfl) (fun _ _ => rfl)

theorem files_host (others : Host (StateM σ)) :
    Files.Corresponding (mediumCorrespondence σ) (host others).files files :=
  Files.corresponding_lift onMedium (fun _ => rfl) (fun _ _ => rfl) files

theorem transport_host (others : Host (StateM σ)) (endpoint : String) (seconds : Nat) (call : JsonRpc.Call) :
    (besideCorrespondence σ).rel ((host others).transport endpoint seconds call)
      (others.transport endpoint seconds call) := rfl

end Medium

namespace SnapshotPlan

/-- Making a planned snapshot asks the ledger beside the medium and writes to the medium. -/
theorem run_medium {σ : Type} (others : Host (StateM σ)) (plan : SnapshotPlan) (medium : Medium) (w : σ) :
    plan.run (Medium.host others) (medium, w) =
      let made := (plan.registry others.transport).snapshot plan.dev plan.node w
      let written := made.1.write Medium.files plan.output medium
      (outcome written.1 made.1.summary, written.2, made.2) := by
  have made : (plan.registry (Medium.host others).transport).snapshot plan.dev plan.node =
      Medium.beside ((plan.registry others.transport).snapshot plan.dev plan.node) :=
    snapshot_rel (Medium.besideCorrespondence σ) (Medium.transport_host others) rfl plan
  have written (s : Snapshot) :
      s.write (Medium.host others).files plan.output = Medium.onMedium (s.write Medium.files plan.output) :=
    s.write_rel (Medium.files_host others) plan.output
  rw [run_eq, made]
  simp only [Medium.beside_apply, written, Medium.onMedium_apply]

/-- What was written or not is made or not. -/
theorem written_outcome {path : Path} {s : Snapshot} {tree tree' : FileTree}
    {result : Except Snapshot.ArtifactError Unit} (written : Snapshot.Written path s tree result tree')
    (summary : Summary) : Snapshot.Written path s tree (outcome result summary) tree' := by
  cases written with
  | kept e spared reads => exact .kept _ spared reads
  | replaced a resolved found spared => exact .replaced _ resolved found spared

/-- **A snapshot is made all or nothing.** Writing a snapshot to a path, whatever goes wrong on the way, either fails
and leaves every file as it was, or succeeds and leaves every file as it was but the one at the path, which has the
text of the snapshot and a line feed; at most, directories above the path are new. The same goes for making a planned
snapshot, wherever its counts come from. -/
theorem all_or_nothing :
    (∀ (path : Path) (s : Snapshot) (medium : Medium), ∃ result after,
      s.write Medium.files path medium = (result, after) ∧ s.Written path medium.tree result after.tree) ∧
    ∀ {σ : Type} (others : Host (StateM σ)) (plan : SnapshotPlan) (medium : Medium) (w : σ), ∃ s asked result after,
      (plan.registry others.transport).snapshot plan.dev plan.node w = (s, asked) ∧
      plan.run (Medium.host others) (medium, w) = (result, after, asked) ∧
      s.Written plan.output medium.tree result after.tree := by
  refine ⟨?_, ?_⟩
  · intro path s medium
    have written := s.written_write path medium
    generalize s.write Medium.files path medium = wrote at written ⊢
    obtain ⟨result, after⟩ := wrote
    exact ⟨result, after, rfl, written⟩
  · intro σ others plan medium w
    rw [run_medium]
    generalize (plan.registry others.transport).snapshot plan.dev plan.node w = made
    obtain ⟨s, asked⟩ := made
    dsimp only
    have written := s.written_write plan.output medium
    generalize s.write Medium.files plan.output medium = wrote at written ⊢
    obtain ⟨result, after⟩ := wrote
    exact ⟨s, asked, outcome result s.summary, after, rfl, rfl, written_outcome written s.summary⟩

end SnapshotPlan

end Allotment
