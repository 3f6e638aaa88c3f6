import Allotment.Plan.Snapshot
import Allotment.Proofs.Host.World
import Allotment.Proofs.Snapshot.Artifact
import Allotment.Proofs.Snapshot.Enrich

/-!
# Making a snapshot in a world

Making a snapshot asks the ledger and then writes a file (`SnapshotPlan.run_eq`). In a world the one is done with the
network alone and the other with the files alone (`SnapshotPlan.run_host`). What the ledger has to say, if anything, is
lost on all but the counts of bound nodes: neither the rows, nor the totals, nor whether the snapshot is made at all
depend on it (`SnapshotPlan.enrichment_harmless`).
-/

namespace Allotment

theorem attempt_apply {ε σ α : Type} (failure : ε → Failure) (step : StateM σ (Except ε α)) (s : σ) :
    (attempt failure step : ExceptT Failure (StateM σ) α) s = ((step s).1.mapError failure, (step s).2) := rfl

theorem attempt_eq_ok {ε σ α : Type} {failure : ε → Failure} {step : StateM σ (Except ε α)} {a : α} {s s' : σ}
    (given : (attempt failure step : ExceptT Failure (StateM σ) α) s = (.ok a, s')) : step s = (.ok a, s') := by
  rw [attempt_apply] at given
  generalize step s = made at given
  obtain ⟨outcome, between⟩ := made
  cases outcome with
  | ok a =>
    cases given
    rfl
  | error e => cases given

namespace Snapshot

variable {σ : Type} (answer : JsonRpc.Transport (StateM σ)) (path : Path)

theorem write_host (s : Snapshot) :
    s.write (World.host answer).files path = World.onFiles (s.write FileTree.files path) :=
  s.write_rel (World.files_host answer) path

theorem read_host : read (World.host answer).files path = World.onFiles (read FileTree.files path) :=
  read_rel (World.files_host answer) path

end Snapshot

namespace SnapshotPlan

/-- The outcome of making a snapshot with the given totals, told by that of writing it. -/
def outcome (written : Except Snapshot.ArtifactError Unit) (summary : Summary) : Except Failure Summary :=
  match written with
  | .ok () => .ok summary
  | .error cause => .error (.artifact cause)

/-- Making a snapshot asks the ledger and then writes the file. -/
theorem run_eq {σ : Type} (host : Host (StateM σ)) (plan : SnapshotPlan) (state : σ) :
    plan.run host state =
      let made := (plan.registry host.transport).snapshot plan.dev plan.node state
      let written := made.1.write host.files plan.output made.2
      (outcome written.1 made.1.summary, written.2) := by
  rw [run, exceptT_bind_apply, exceptT_lift_apply]
  dsimp only
  generalize (plan.registry host.transport).snapshot plan.dev plan.node state = made
  obtain ⟨s, state⟩ := made
  dsimp only
  rw [exceptT_bind_apply, attempt_apply]
  generalize s.write host.files plan.output state = written
  obtain ⟨outcome, state⟩ := written
  cases outcome with
  | ok _ => rfl
  | error cause => rfl

section Corresponding

variable {m n : Type → Type} [Monad m] [Monad n] (c : Claim.Correspondence m n) {transport : JsonRpc.Transport m}
  {transport' : JsonRpc.Transport n}

/-- The snapshots of a plan correspond when the ways to its endpoint do and the same words are used. -/
theorem snapshot_rel
    (carries : ∀ endpoint seconds call, c.rel (transport endpoint seconds call) (transport' endpoint seconds call))
    (wording : transport.wording = transport'.wording) (plan : SnapshotPlan) :
    c.rel ((plan.registry transport).snapshot plan.dev plan.node)
      ((plan.registry transport').snapshot plan.dev plan.node) := by
  have offline := NodeRegistry.snapshot_offline_rel c plan.dev plan.node
  unfold registry LedgerPlan.connect JsonRpc.connect
  cases plan.onchainEnrichment with
  | false => exact offline
  | true =>
    cases plan.nodeRewards with
    | none => exact offline
    | some contract =>
      dsimp only
      by_cases valid : Endpoint.isValid plan.ledger.endpoint = true
      case pos =>
        rw [if_pos valid, if_pos valid]
        refine NodeRegistry.snapshot_rel c (fun request => ?_) (some contract) plan.dev plan.node
        rw [wording]
        exact c.rel_bind (carries _ _ _) fun _ => c.rel_pure _
      case neg =>
        rw [if_neg valid, if_neg valid]
        exact offline

end Corresponding

/-- In a world the ledger is asked over the network, and the snapshot is written to the files. -/
theorem run_host {σ : Type} (answer : JsonRpc.Transport (StateM σ)) (plan : SnapshotPlan) (world : World σ) :
    plan.run (World.host answer) world =
      let made := (plan.registry answer).snapshot plan.dev plan.node world.network
      let written := made.1.write FileTree.files plan.output world.files
      (outcome written.1 made.1.summary, { world with files := written.2, network := made.2 }) := by
  have made : (plan.registry (World.host answer).transport).snapshot plan.dev plan.node =
      World.onNetwork ((plan.registry answer).snapshot plan.dev plan.node) :=
    snapshot_rel (World.networkCorrespondence σ) (World.transport_host answer) rfl plan
  rw [run_eq, made]
  simp only [Snapshot.write_host, World.onNetwork_apply, World.onFiles_apply]

/-- A snapshot that was made in a world is what its file is read as, unless it contradicts itself. -/
theorem read_of_run {σ : Type} {answer : JsonRpc.Transport (StateM σ)} {plan : SnapshotPlan} {world world' : World σ}
    {summary : Summary}
    (made : plan.run (World.host answer) world = (.ok summary, world')) :
    let s := ((plan.registry (World.host answer).transport).snapshot plan.dev plan.node world).1
    Snapshot.read (World.host answer).files plan.output world' =
        (Snapshot.ofFileText plan.output s.fileText, world') ∧
      summary = s.summary := by
  rw [run_eq] at made
  simp only [Snapshot.write_host, World.onFiles_apply] at made
  generalize (plan.registry (World.host answer).transport).snapshot plan.dev plan.node world = asked at made ⊢
  obtain ⟨s, between⟩ := asked
  dsimp only at made ⊢
  cases ends : s.write FileTree.files plan.output between.files with
  | mk result tree =>
    rw [ends] at made
    obtain ⟨same, rfl⟩ := Prod.mk.inj made
    cases result with
    | error cause => cases same
    | ok _ =>
      obtain rfl : s.summary = summary := Except.ok.inj same
      have found := Snapshot.read_of_write ends
      rw [Snapshot.read_host, World.onFiles_apply]
      dsimp only
      rw [found]
      exact ⟨by dsimp only, rfl⟩

/-! ## What the ledger cannot do -/

/-- **Nothing that happens on the way to the counts of bound nodes matters to anything else.** Two snapshots of the same
tables are alike wherever their counts come from. In any surroundings, making a snapshot fails only where writing it
does, with just that error, and has the totals of the tables otherwise. In two worlds with the same files, plans for
the same tables and the same place come out the same, whatever their endpoints are and however these answer. -/
theorem enrichment_harmless :
    (∀ {σ σ' : Type} (registry : NodeRegistry (StateM σ)) (registry' : NodeRegistry (StateM σ'))
      (dev node : Points.Table) (state : σ) (state' : σ'),
        (registry.snapshot dev node state).1.Alike (registry'.snapshot dev node state').1) ∧
    (∀ {σ : Type} (host : Host (StateM σ)) (plan : SnapshotPlan) (state : σ),
      let made := (plan.registry host.transport).snapshot plan.dev plan.node state
      (plan.run host state).1 =
        match (made.1.write host.files plan.output made.2).1 with
        | .ok () => .ok (Snapshot.build plan.dev plan.node .empty).summary
        | .error cause => .error (.artifact cause)) ∧
    ∀ {σ σ' : Type} (answer : JsonRpc.Transport (StateM σ)) (answer' : JsonRpc.Transport (StateM σ'))
      (plan : SnapshotPlan) (ledger : LedgerPlan) (nodeRewards : Option Address) (onchainEnrichment : Bool)
      (world : World σ) (world' : World σ'),
      (run (World.host answer') { plan with ledger, nodeRewards, onchainEnrichment }
          { world' with files := world.files }).1 =
        (plan.run (World.host answer) world).1 := by
  have summary {σ : Type} (registry : NodeRegistry (StateM σ)) (dev node : Points.Table) (state : σ) :
      (registry.snapshot dev node state).1.summary = (Snapshot.build dev node .empty).summary :=
    (Snapshot.alike_build dev node .empty _).summary
  refine ⟨fun registry registry' dev node state state' => registry.snapshot_alike registry' dev node state state', ?_,
    ?_⟩
  · intro σ host plan state made
    rw [run_eq]
    dsimp only [outcome]
    rw [summary]
  · intro σ σ' answer answer' plan ledger nodeRewards onchainEnrichment world world'
    rw [run_host, run_host]
    dsimp only
    rw [summary, summary, Snapshot.write_outcome]

end SnapshotPlan

end Allotment
