import Allotment.Proofs.Plan.Sources

/-!
# Whatever the endpoint is

- a configuration with valid tables is planned unless its endpoint is blank (`Config.snapshotPlan_eq`), which the plan
  for the ledger looks at, whether anything is to be asked of the ledger or not (`Config.ledgerPlan_eq`);
- a plan whose place can be written to is carried out, and its file is read back (`SnapshotPlan.run_of_writable`);
- an endpoint that cannot be used leaves the counts of bound nodes at zero (`SnapshotPlan.snapshot_of_unusable`).

So an endpoint has to be given, and beyond that it decides on nothing but the counts of bound nodes
(`Config.snapshot_of_endpoint`).
-/

namespace Allotment

open Points

/-! ## Planning -/

variable {σ : Type} {answer : JsonRpc.Transport (StateM σ)}

namespace Config

/-- The endpoint is all that can be wrong with the settings of the ledger. -/
theorem ledgerPlan_eq (c : Config) :
    c.ledgerPlan =
      if Text.isBlankText c.ledger.endpoint then .error .emptyEndpoint
      else .ok ⟨Text.trim c.ledger.endpoint, max 1 c.ledger.requestTimeoutSecs⟩ := by
  unfold ledgerPlan
  simp only [Text.isEmpty_trim]

/-- A table whose sources are valid is planned, and nothing is changed. -/
theorem pointsTable_of_sources {name : String} {members : List (String × Json)} {file : Option Path}
    {own others : List Points.Entry} {world : World σ} (sources : Sources world.files name members file own others) :
    pointsTable (World.host answer).files name members file world = (.ok ⟨name, own ++ others⟩, world) := by
  have listed : (attempt .points (pure (Table.ofJson name members)) : ExceptT Failure (StateM (World σ)) Table) world =
      (.ok ⟨name, own⟩, world) := by
    rw [attempt_apply, sources.own]
    rfl
  unfold pointsTable
  rw [exceptT_bind_apply, listed]
  have behind := sources.others
  cases file with
  | none =>
    obtain rfl : others = [] := behind
    rw [List.append_nil]
    rfl
  | some path =>
    have loaded : Table.loadCsv (World.host answer).files path world = (.ok ⟨path.text, others⟩, world) := by
      rw [Table.loadCsv_host, World.onFiles_apply, behind, Table.loadCsv_eq]
    show (attempt .points (Table.loadCsv (World.host answer).files path) >>= _ : ExceptT Failure _ _) world = _
    rw [exceptT_bind_apply, attempt_apply, loaded]
    rfl

/-- With valid tables it is the settings of the ledger that decide on whether there is a plan. -/
theorem snapshotPlan_eq {c : Config} {world : World σ} {dev devFile node nodeFile : List Points.Entry}
    {nodeRewards : Option Address}
    (devSources : Sources world.files "snapshot.dev_points" c.snapshot.devPoints c.snapshot.devPointsFile dev devFile)
    (nodeSources :
      Sources world.files "snapshot.node_points" c.snapshot.nodePoints c.snapshot.nodePointsFile node nodeFile)
    (address : readAddress "snapshot.node_rewards_address" c.snapshot.nodeRewardsAddress = .ok nodeRewards) :
    c.snapshotPlan (World.host answer).files world =
      (match c.ledgerPlan with
        | .ok ledger => .ok ⟨ledger, nodeRewards, c.snapshot.onchainEnrichment,
            ⟨"snapshot.dev_points", dev ++ devFile⟩, ⟨"snapshot.node_points", node ++ nodeFile⟩, c.snapshot.output⟩
        | .error fault => .error (.config fault), world) := by
  unfold snapshotPlan
  rw [exceptT_bind_apply, pointsTable_of_sources devSources]
  dsimp only
  rw [exceptT_bind_apply, pointsTable_of_sources nodeSources]
  dsimp only
  rw [exceptT_bind_apply, attempt_apply, address]
  show (attempt .config (pure c.ledgerPlan) >>= _ : ExceptT Failure (StateM (World σ)) _) world = _
  rw [exceptT_bind_apply, attempt_apply]
  cases c.ledgerPlan with
  | ok ledger => rfl
  | error fault => rfl

end Config

/-! ## Carrying out a plan -/

/-- An endpoint that nothing is learnt from: it is none, or it does not tell the id of its chain. -/
def LedgerPlan.Unusable (plan : LedgerPlan) (transport : JsonRpc.Transport (StateM σ)) (state : σ) : Prop :=
  ∀ ledger, plan.connect transport = .ok ledger → ∃ e, (ledger .chainId state).1 = .error e

namespace SnapshotPlan

/-- Without an endpoint that can be used, and where none is to be asked, the counts stay at zero. -/
theorem snapshot_of_unusable {plan : SnapshotPlan} {transport : JsonRpc.Transport (StateM σ)} {state : σ}
    (unusable : plan.onchainEnrichment = false ∨ plan.ledger.Unusable transport state) :
    ((plan.registry transport).snapshot plan.dev plan.node state).1 =
      Snapshot.build plan.dev plan.node .empty := by
  rw [NodeRegistry.snapshot_eq]
  congr 1
  unfold registry
  split
  case h_1 enriched _ =>
    have unusable := unusable.resolve_left (by rw [enriched]; decide)
    split
    case h_1 ledger connected =>
      obtain ⟨e, silent⟩ := unusable ledger connected
      simp only [NodeRegistry.collect, bind, StateT.bind]
      generalize ledger .chainId state = asked at silent
      obtain ⟨_, state'⟩ := asked
      obtain rfl := silent
      rfl
    case h_2 => rfl
  case h_2 => rfl

variable (answer) in
/-- A plan whose place can be written to is carried out, and then its snapshot is read there. -/
theorem run_of_writable (plan : SnapshotPlan) {world : World σ} {s : Snapshot}
    (writable : (s.write FileTree.files plan.output world.files).1 = .ok ()) :
    let s := ((plan.registry (World.host answer).transport).snapshot plan.dev plan.node world).1
    ∃ made, plan.run (World.host answer) world = (.ok s.summary, made) ∧
      Snapshot.read (World.host answer).files plan.output made = (.ok s, made) := by
  have succeeds : ∃ summary, (plan.run (World.host answer) world).1 = .ok summary := by
    rw [run_host]
    dsimp only
    rw [Snapshot.write_outcome plan.output _ s, writable]
    exact ⟨_, rfl⟩
  obtain ⟨summary, succeeds⟩ := succeeds
  generalize ran : plan.run (World.host answer) world = ended at succeeds
  obtain ⟨_, made⟩ := ended
  obtain rfl := succeeds
  obtain ⟨read, totals⟩ := read_of_run ran
  refine ⟨made, by rw [totals], ?_⟩
  have valid := Snapshot.validate_build plan.dev plan.node
    ((plan.registry (World.host answer).transport).collect plan.dev plan.node world).1
  rw [read, Snapshot.ofFileText_fileText, NodeRegistry.snapshot_eq, valid]

end SnapshotPlan

namespace Config

variable (answer) in
/-- **An endpoint has to be given, and that is all.** Let the tables of a configuration be valid, the address of the
registry be valid or none, and the place of the snapshot one that can be written to. With a blank endpoint, there is no
plan, whether the ledger is to be asked or not, and nothing is written. With any other endpoint there is a plan, and
the snapshot is made: its file is read as a snapshot of the tables, and only the counts of bound nodes depend on the
endpoint. If that cannot be used, they are zero. -/
theorem snapshot_of_endpoint {c : Config} {world : World σ} {dev devFile node nodeFile : List Points.Entry}
    (devSources : Sources world.files "snapshot.dev_points" c.snapshot.devPoints c.snapshot.devPointsFile dev devFile)
    (nodeSources :
      Sources world.files "snapshot.node_points" c.snapshot.nodePoints c.snapshot.nodePointsFile node nodeFile)
    (address : ∃ nodeRewards,
      readAddress "snapshot.node_rewards_address" c.snapshot.nodeRewardsAddress = .ok nodeRewards)
    (writable : ∃ s : Snapshot, (s.write FileTree.files c.snapshot.output world.files).1 = .ok ())
    (endpoint : String) (enrichment : Bool) :
    let c' := { c with
      ledger := { c.ledger with endpoint }
      snapshot := { c.snapshot with onchainEnrichment := enrichment } }
    let offline :=
      Snapshot.build ⟨"snapshot.dev_points", dev ++ devFile⟩ ⟨"snapshot.node_points", node ++ nodeFile⟩ .empty
    if Text.isBlankText endpoint then
      c'.snapshotPlan (World.host answer).files world = (.error (.config .emptyEndpoint), world)
    else ∃ plan s made,
      c'.snapshotPlan (World.host answer).files world = (.ok plan, world) ∧
      plan.run (World.host answer) world = (.ok offline.summary, made) ∧
      Snapshot.read (World.host answer).files c.snapshot.output made = (.ok s, made) ∧
      offline.Alike s ∧
      (enrichment = false ∨ plan.ledger.Unusable (World.host answer).transport world → s = offline) := by
  intro c' offline
  obtain ⟨nodeRewards, address⟩ := address
  obtain ⟨s, writable⟩ := writable
  have planned : c'.snapshotPlan (World.host answer).files world = _ := snapshotPlan_eq devSources nodeSources address
  rw [ledgerPlan_eq c'] at planned
  split
  case isTrue blank =>
    rw [if_pos blank] at planned
    exact planned
  case isFalse given =>
    rw [if_neg given] at planned
    obtain ⟨made, run, read⟩ := SnapshotPlan.run_of_writable answer ⟨_, nodeRewards, enrichment,
      ⟨"snapshot.dev_points", dev ++ devFile⟩, ⟨"snapshot.node_points", node ++ nodeFile⟩, _⟩ writable
    have alike := Snapshot.alike_build ⟨"snapshot.dev_points", dev ++ devFile⟩ ⟨"snapshot.node_points", node ++ nodeFile⟩
      .empty
    rw [NodeRegistry.snapshot_eq] at run read
    rw [(alike _).summary] at run
    exact ⟨_, _, made, planned, run, read, alike _, fun unusable => SnapshotPlan.snapshot_of_unusable unusable⟩

/-- The address that is zero but for its last byte. -/
def zeroBut (byte : UInt8) : Address := ⟨(Vector.replicate 19 0).push byte⟩

/-- What stands in the configuration, and what stands in the file behind it. -/
theorem sources_listing :
    Sources listed.files "snapshot.dev_points" listing.snapshot.devPoints listing.snapshot.devPointsFile
      [⟨zeroBut 1, 5⟩] [⟨zeroBut 2, 7⟩, ⟨zeroBut 1, 9⟩] ∧
    Sources listed.files "snapshot.node_points" listing.snapshot.nodePoints listing.snapshot.nodePointsFile [] [] :=
  ⟨⟨rfl, rfl⟩, ⟨rfl, rfl⟩⟩

theorem readAddress_listing :
    readAddress "snapshot.node_rewards_address" listing.snapshot.nodeRewardsAddress = .ok (some (zeroBut 9)) := rfl

theorem writable_listing :
    ((Snapshot.build ⟨"", []⟩ ⟨"", []⟩ .empty).write FileTree.files listing.snapshot.output listed.files).1 =
      .ok () := rfl

/-- An endpoint that is none, to be asked for counts of bound nodes. -/
theorem snapshot_of_endpoint_listed :
    let c := { listing with
      ledger := { listing.ledger with endpoint := "no endpoint" }
      snapshot := { listing.snapshot with onchainEnrichment := true } }
    let offline := Snapshot.build ⟨"snapshot.dev_points", [⟨zeroBut 1, 5⟩, ⟨zeroBut 2, 7⟩, ⟨zeroBut 1, 9⟩]⟩
      ⟨"snapshot.node_points", []⟩ .empty
    ∃ plan s made,
      c.snapshotPlan (World.host World.unreachable).files listed = (.ok plan, listed) ∧
      plan.run (World.host World.unreachable) listed = (.ok offline.summary, made) ∧
      Snapshot.read (World.host World.unreachable).files ⟨"out/snapshot.json"⟩ made = (.ok s, made) ∧
      offline.Alike s ∧
      (true = false ∨ plan.ledger.Unusable (World.host World.unreachable).transport listed → s = offline) := by
  have given : ¬ Text.isBlankText "no endpoint" = true := by decide
  have made := snapshot_of_endpoint World.unreachable sources_listing.1 sources_listing.2
    ⟨_, readAddress_listing⟩ ⟨_, writable_listing⟩ "no endpoint" true
  rwa [if_neg given] at made

/-- A blank endpoint stops a snapshot for which nothing is to be asked of the ledger. -/
theorem snapshotPlan_listing_blank :
    Sources listed.files "snapshot.dev_points" listing.snapshot.devPoints listing.snapshot.devPointsFile
      [⟨zeroBut 1, 5⟩] [⟨zeroBut 2, 7⟩, ⟨zeroBut 1, 9⟩] ∧
    Sources listed.files "snapshot.node_points" listing.snapshot.nodePoints listing.snapshot.nodePointsFile [] [] ∧
    readAddress "snapshot.node_rewards_address" listing.snapshot.nodeRewardsAddress = .ok (some (zeroBut 9)) ∧
    ((Snapshot.build ⟨"", []⟩ ⟨"", []⟩ .empty).write FileTree.files listing.snapshot.output listed.files).1 = .ok () ∧
    (snapshotPlan (World.host World.unreachable).files { listing with
      ledger := { listing.ledger with endpoint := " \t" }
      snapshot := { listing.snapshot with onchainEnrichment := false } } listed).1 =
        .error (.config .emptyEndpoint) :=
  ⟨sources_listing.1, sources_listing.2, readAddress_listing, writable_listing, rfl⟩

end Config

end Allotment
